import EntityQuery.Proofs.Backtracking
import EntityQuery.Proofs.Summaries

/-!
# Statements are known by their texts

Two statements of one kind with the same text have the same entity type, attributes to fetch, condition, groups, sort keys,
offset, limit and assigned values (`text_determines_statement`).

The words of the clauses' text are the words of their summary, which `readClauses` gives back, so equal texts have equal
summaries, and a summary determines everything that the clauses say. Assignments are a list of single words inside
brackets, each with its key before the first equals sign.
-/

namespace EntityQuery

open RawText EntityQuery.Expr

/-! ## Word-shaped statements -/

def FieldValues.WordShaped (values : FieldValues) : Prop := ∀ p ∈ values.fields, IsName p.1

def Statement.WordShaped {σ : Type} : Statement σ → Prop
  | select s => s.clauses.WordShaped
  | insert s => IsName s.entityType ∧ s.values.WordShaped
  | update s => s.clauses.WordShaped ∧ s.effect.WordShaped
  | delete s => s.clauses.WordShaped

/-! ## What statements have in common -/

structure Clauses.Agree (c d : Clauses) : Prop where
  entityType : c.entityType = d.entityType
  predicate : c.predicate.text = d.predicate.text
  groupBy : c.groupBy = d.groupBy
  sort : c.sort = d.sort
  offset : c.offset = d.offset
  limit : c.limit = d.limit

def FieldValues.assignments (values : FieldValues) : List (String × String) :=
  values.fields.map fun (key, v) => (key, Literal.encode v)

inductive Statement.Agree {σ : Type} : Statement σ → Statement σ → Prop
  | select {s t : Select σ} : s.clauses.projection = t.clauses.projection → s.clauses.Agree t.clauses →
      Agree (select s) (select t)
  | insert {s t : Insert σ} : s.entityType = t.entityType → s.values.assignments = t.values.assignments →
      Agree (insert s) (insert t)
  | update {s t : Update σ} : s.clauses.Agree t.clauses → s.effect.assignments = t.effect.assignments →
      Agree (update s) (update t)
  | delete {s t : Delete σ} : s.clauses.Agree t.clauses → Agree (delete s) (delete t)

inductive Statement.SameKind {σ : Type} : Statement σ → Statement σ → Prop
  | select (s t : Select σ) : SameKind (select s) (select t)
  | insert (s t : Insert σ) : SameKind (insert s) (insert t)
  | update (s t : Update σ) : SameKind (update s) (update t)
  | delete (s t : Delete σ) : SameKind (delete s) (delete t)

/-! ## From summaries to clauses -/

theorem map_eq_of_map_eq {α β γ : Type} {f : α → β} {g : α → γ} {xs ys : List α}
    (h : ∀ x ∈ xs, ∀ y ∈ ys, f x = f y → g x = g y) (hmap : xs.map f = ys.map f) : xs.map g = ys.map g := by
  induction xs generalizing ys with
  | nil =>
    rw [List.map_nil, eq_comm, List.map_eq_nil_iff] at hmap
    rw [hmap]
  | cons x xs ih =>
    cases ys with
    | nil => cases hmap
    | cons y ys =>
      obtain ⟨hxy, hrest⟩ := List.cons.inj hmap
      have htail := ih (fun u hu v hv => h u (by simp [hu]) v (by simp [hv])) hrest
      rw [List.map_cons, List.map_cons, h x (by simp) y (by simp) hxy, htail]

theorem map_toList_inj {xs ys : List String} (h : xs.map String.toList = ys.map String.toList) : xs = ys := by
  exact (List.map_inj_right fun _ _ => String.toList_inj.1).1 h

theorem toString_toNat_inj {a b : UInt64} (h : (toString a.toNat).toList = (toString b.toNat).toList) : a = b := by
  have hdigits : Nat.toDigits 10 a.toNat = Nat.toDigits 10 b.toNat := by
    rw [← Nat.toList_repr, ← Nat.toList_repr]
    exact h
  apply UInt64.toNat_inj.1
  calc a.toNat
    _ = Nat.ofDigitChars 10 (Nat.toDigits 10 a.toNat) 0 := Nat.ofDigitChars_ten_toDigits.symm
    _ = Nat.ofDigitChars 10 (Nat.toDigits 10 b.toNat) 0 := by rw [hdigits]
    _ = b.toNat := Nat.ofDigitChars_ten_toDigits

theorem SortKey.summary_inj {k l : SortKey} (hk : k.path.IsNamed) (hl : l.path.IsNamed)
    (h : k.summary = l.summary) : k = l := by
  obtain ⟨hpath, hdirection⟩ := Prod.mk.inj h
  obtain ⟨path, direction⟩ := k
  obtain ⟨path', direction'⟩ := l
  obtain rfl : path = path' := hk.toText_inj hl (String.toList_inj.1 hpath)
  cases direction with
  | ascending =>
    cases direction' with
    | ascending => rfl
    | descending => cases hdirection
  | descending =>
    cases direction' with
    | ascending => cases hdirection
    | descending => rfl

theorem sort_eq_of_summary {ks ls : List SortKey} (hks : ∀ k ∈ ks, k.path.IsNamed) (hls : ∀ k ∈ ls, k.path.IsNamed)
    (h : ks.map SortKey.summary = ls.map SortKey.summary) : ks = ls := by
  have hsame := map_eq_of_map_eq (g := id) (fun k hk l hl => SortKey.summary_inj (hks k hk) (hls l hl)) h
  rwa [List.map_id, List.map_id] at hsame

namespace Clauses

variable {c d : Clauses} {withProjection : Bool}

theorem WordShaped.agree_of_summary (hc : c.WordShaped) (hd : d.WordShaped)
    (h : c.summary withProjection = d.summary withProjection) : c.Agree d where
  entityType := String.toList_inj.1 (congrArg Summary.entityType h)
  predicate := by
    have hcondition : (if c.predicate.text.isEmpty then [] else words c.predicate.text.toList) =
        if d.predicate.text.isEmpty then [] else words d.predicate.text.toList := congrArg Summary.condition h
    have hwords : ∀ cs, words cs ≠ [] := wordsFrom_ne_nil .start
    split at hcondition
    next hempty =>
      split at hcondition
      next hempty' => rw [String.isEmpty_iff.1 hempty, String.isEmpty_iff.1 hempty']
      · exact absurd hcondition.symm (hwords _)
    · split at hcondition
      · exact absurd hcondition (hwords _)
      · exact String.toList_inj.1 (words_inj hcondition)
  groupBy := map_toList_inj (congrArg Summary.groupBy h)
  sort := sort_eq_of_summary hc.names.sort hd.names.sort (congrArg Summary.sort h)
  offset := by
    have hoffset : (if c.offset = 0 then [] else [(toString c.offset.toNat).toList]) =
        if d.offset = 0 then [] else [(toString d.offset.toNat).toList] := congrArg Summary.offset h
    split at hoffset
    next hzero =>
      split at hoffset
      next hzero' => rw [hzero, hzero']
      · cases hoffset
    · split at hoffset
      · cases hoffset
      · exact toString_toNat_inj (List.singleton_inj.1 hoffset)
  limit := by
    have hlimit : (c.limit.map fun n => (toString n.toNat).toList).toList =
        (d.limit.map fun n => (toString n.toNat).toList).toList := congrArg Summary.limit h
    have hhead := congrArg List.head? hlimit
    rw [Option.head?_toList, Option.head?_toList] at hhead
    exact (Option.map_inj_right fun _ _ => toString_toNat_inj).1 hhead

/-- Equal words of clauses, with something after them, come from clauses that say the same. -/
theorem WordShaped.agree_of_words (hc : c.WordShaped) (hd : d.WordShaped) {tail tail' : List (List Char)}
    (htail : IsTail tail) (htail' : IsTail tail')
    (h : words (c.text withProjection).toList ++ tail = words (d.text withProjection).toList ++ tail') :
    c.Agree d ∧ (withProjection = true → c.projection = d.projection) ∧ tail = tail' := by
  have hread := congrArg readClauses h
  rw [hc.words_text, hd.words_text, Summary.readClauses_words (hc.summary_isProper _) htail,
    Summary.readClauses_words (hd.summary_isProper _) htail'] at hread
  obtain ⟨hsummary, hrest⟩ := Prod.mk.inj hread
  refine ⟨hc.agree_of_summary hd hsummary, ?_, hrest⟩
  rintro rfl
  exact map_toList_inj (congrArg Summary.projection hsummary)

theorem WordShaped.agree_of_text (hc : c.WordShaped) (hd : d.WordShaped)
    (h : (c.text withProjection).toList = (d.text withProjection).toList) :
    c.Agree d ∧ (withProjection = true → c.projection = d.projection) := by
  obtain ⟨hagree, hprojection, -⟩ := hc.agree_of_words hd .nil .nil (congrArg (words · ++ []) h)
  exact ⟨hagree, hprojection⟩

end Clauses

/-! ## Assignments -/

theorem split_at_first {x : Char} {as bs cs ds : List Char} (ha : x ∉ as) (hb : x ∉ bs)
    (h : as ++ x :: cs = bs ++ x :: ds) : as = bs ∧ cs = ds := by
  have hfront := congrArg (List.takeWhile (· != x)) h
  rw [Text.takeWhile_ne_append_cons ha, Text.takeWhile_ne_append_cons hb] at hfront
  subst hfront
  exact ⟨rfl, (List.cons.inj (List.append_cancel_left h)).2⟩

namespace FieldValues

variable {p q : String × Value}

theorem key_plain (h : IsName p.1) : ∀ c ∈ p.1.toList ++ ['='], c ≠ ' ' ∧ c ≠ '"' ∧ c ≠ '(' ∧ c ≠ ')' := by
  intro c hc
  rcases List.mem_append.1 hc with hc | hc
  · exact ⟨isNameChar_ne (h.2 c hc) (by simp), isNameChar_plain (h.2 c hc)⟩
  · rw [List.mem_singleton.1 hc]
    decide

theorem words_assignmentText (h : IsName p.1) : words (assignmentText p).toList = [(assignmentText p).toList] := by
  have htext : (assignmentText p).toList = (p.1.toList ++ ['=']) ++ (Literal.encode p.2).toList := by
    rw [toList_assignmentText, List.append_assoc]
    rfl
  rw [htext, words_append_plain (key_plain h), (isLiteral_encode p.2).words_eq]
  rfl

theorem balanced_assignmentText (h : IsName p.1) : Balanced (assignmentText p).toList := by
  rw [toList_assignmentText]
  exact h.balanced.append (.cons (by decide) (isLiteral_encode p.2).balanced)

theorem getLast_assignmentText (p : String × Value) : (assignmentText p).toList.getLast? ≠ some ',' := by
  have hliteral := isLiteral_encode p.2
  obtain ⟨c, hc⟩ := Option.isSome_iff_exists.1 (List.getLast?_isSome.2 hliteral.ne_nil)
  have hlast := hliteral.getLast_ne_comma
  rw [hc] at hlast
  rwa [toList_assignmentText, List.getLast?_append, List.getLast?_cons_of_ne_nil hliteral.ne_nil, hc]

theorem assignmentText_inj (hp : IsName p.1) (hq : IsName q.1)
    (h : (assignmentText p).toList = (assignmentText q).toList) :
    (p.1, Literal.encode p.2) = (q.1, Literal.encode q.2) := by
  rw [toList_assignmentText, toList_assignmentText] at h
  obtain ⟨hkey, hvalue⟩ := split_at_first (not_mem_of_isNameChar hp.2 (by simp))
    (not_mem_of_isNameChar hq.2 (by simp)) h
  rw [String.toList_inj.1 hkey, String.toList_inj.1 hvalue]

variable {a b : FieldValues}

theorem WordShaped.balanced (h : a.WordShaped) : Balanced a.text.toList := by
  rw [text_eq]
  refine balanced_listing ?_
  rw [List.forall_mem_map]
  exact fun p hp => balanced_assignmentText (h p hp)

theorem WordShaped.listing_words (h : a.WordShaped) (hne : a.fields ≠ []) :
    listing (words a.text.toList) = (a.fields.map fun p => (assignmentText p).toList, []) := by
  have hmap : a.fields.map assignmentText ≠ [] := by
    rwa [ne_eq, List.map_eq_nil_iff]
  have hbalanced : ∀ s ∈ a.fields.map assignmentText, Balanced s.toList := by
    rw [List.forall_mem_map]
    exact fun p hp => balanced_assignmentText (h p hp)
  have hrows : (a.fields.map assignmentText).map (fun s => words s.toList) =
      (a.fields.map fun p => (assignmentText p).toList).map fun name => [name] := by
    rw [List.map_map, List.map_map]
    exact List.map_congr_left fun p hp => words_assignmentText (h p hp)
  have hlast : ∀ name ∈ a.fields.map fun p => (assignmentText p).toList, name.getLast? ≠ some ',' := by
    rw [List.forall_mem_map]
    exact fun p _ => getLast_assignmentText p
  have hnames : (a.fields.map fun p => (assignmentText p).toList) ≠ [] := by
    rwa [ne_eq, List.map_eq_nil_iff]
  have hread := listing_listingWords [] hnames hlast
  rw [text_eq, words_commas hmap hbalanced, hrows]
  rwa [List.append_nil] at hread

theorem text_ne_nil (hne : a.fields ≠ []) : a.text.toList ≠ [] := by
  rw [text_eq]
  refine listing_ne_nil (by simpa using hne) ?_
  rw [List.forall_mem_map]
  intro p _
  rw [toList_assignmentText]
  simp

theorem WordShaped.assignments_eq (ha : a.WordShaped) (hb : b.WordShaped) (h : a.text.toList = b.text.toList) :
    a.assignments = b.assignments := by
  rw [assignments, assignments]
  by_cases hanil : a.fields = []
  · have hbnil : b.fields = [] := by
      by_contra hne
      refine text_ne_nil hne ?_
      rw [← h, text_eq, hanil]
      rfl
    rw [hanil, hbnil]
  · have hbne : b.fields ≠ [] := by
      intro hbnil
      refine text_ne_nil hanil ?_
      rw [h, text_eq, hbnil]
      rfl
    have hread := congrArg (fun cs => (listing (words cs)).1) h
    rw [ha.listing_words hanil, hb.listing_words hbne] at hread
    exact map_eq_of_map_eq (fun p hp q hq => assignmentText_inj (ha p hp) (hb q hq)) hread

end FieldValues

/-! ## Statements -/

variable {σ : Type}

theorem Update.words_text (s : Update σ) (hclauses : s.clauses.WordShaped) (hvalues : s.effect.WordShaped) :
    words ((s.clauses.text false).toList ++ ' ' :: ("set".toList ++ ' ' :: '(' :: (s.effect.text.toList ++ [')']))) =
      words (s.clauses.text false).toList ++ ["set".toList, '(' :: (s.effect.text.toList ++ [')'])] := by
  have hset : words "set".toList = ["set".toList] := words_of_no_blank (by decide)
  rw [words_append (hclauses.balanced false), words_append (balanced_of_all (by decide)), hset,
    words_brackets hvalues.balanced]
  rfl

/-- **A statement is known by its text.** -/
theorem Statement.text_determines_statement {s t : Statement σ} (hs : s.WordShaped) (ht : t.WordShaped)
    (hkind : s.SameKind t) (htext : s.text = t.text) : s.Agree t := by
  have hchars := congrArg String.toList htext
  cases hkind with
  | select s t =>
    obtain ⟨hagree, hprojection⟩ := Clauses.WordShaped.agree_of_text hs ht hchars
    exact .select (hprojection rfl) hagree
  | insert s t =>
    obtain ⟨hsname, hsvalues⟩ := hs
    obtain ⟨htname, htvalues⟩ := ht
    change s.text.toList = t.text.toList at hchars
    rw [Insert.toList_text, Insert.toList_text] at hchars
    obtain ⟨htype, hrest⟩ := split_at_first (not_mem_of_isNameChar hsname.2 (by simp))
      (not_mem_of_isNameChar htname.2 (by simp)) (List.append_cancel_left hchars)
    exact .insert (String.toList_inj.1 htype) (hsvalues.assignments_eq htvalues (List.append_inj' hrest rfl).1)
  | update s t =>
    obtain ⟨hsclauses, hsvalues⟩ := hs
    obtain ⟨htclauses, htvalues⟩ := ht
    change (Update.text s).toList = (Update.text t).toList at hchars
    rw [Update.toList_text, Update.toList_text] at hchars
    have hwords := congrArg words (List.append_cancel_left hchars)
    rw [Update.words_text s hsclauses hsvalues, Update.words_text t htclauses htvalues] at hwords
    obtain ⟨hagree, -, htail⟩ := hsclauses.agree_of_words htclauses (.assignments _) (.assignments _) hwords
    -- what is left are `set` and the assignments in their brackets, which are one word
    have hinner := (List.cons.inj (List.singleton_inj.1 (List.cons.inj htail).2)).2
    exact .update hagree (hsvalues.assignments_eq htvalues (List.append_inj' hinner rfl).1)
  | delete s t =>
    change (Delete.text s).toList = (Delete.text t).toList at hchars
    rw [Delete.toList_text, Delete.toList_text] at hchars
    exact .delete (Clauses.WordShaped.agree_of_text hs ht (List.append_cancel_left hchars)).1

/-- Two conditions and one conjunction of them have one text, on attributes that are named like clauses. -/
theorem Statement.agree_of_conditions_and_conjunction :
    let conditions : List Expr :=
      [.compare ⟨["limit"]⟩ .equal (.integer 1), .compare ⟨["where"]⟩ .equal (.text "order by id")]
    let clauses (filters : List Expr) : Clauses :=
      { entityType := "from", filters, projection := ["order"], groupBy := ["offset"],
        sort := [⟨⟨["set"]⟩, .descending⟩], limit := some 3 }
    let single : Statement Unit := .select { clauses := clauses conditions, effect := () }
    let grouped : Statement Unit := .select { clauses := clauses [.all conditions], effect := () }
    single.WordShaped ∧ grouped.WordShaped ∧ single.text = grouped.text ∧ single.Agree grouped := by
  intro conditions clauses single grouped
  have hentity : IsName "from" := by decide
  have hprojection : ∀ s ∈ ["order"], IsName s := by decide
  have hgroupBy : ∀ s ∈ ["offset"], IsName s := by decide
  have hsort : ∀ k ∈ [(⟨⟨["set"]⟩, .descending⟩ : SortKey)], k.path.IsNamed ∧ k.path.segments ≠ [] := by decide
  have hnames (filters : List Expr) : (clauses filters).HasNames :=
    ⟨hentity, hprojection, hgroupBy, fun k hk => (hsort k hk).1⟩
  have htests : ∀ e ∈ conditions, Built IsTest e := by
    simp only [conditions, List.forall_mem_cons]
    exact ⟨.leaf rfl (.compare (by decide) (.compare (by decide) nofun)),
      .leaf rfl (.compare (by decide) (.compare (by decide) nofun)), List.forall_mem_nil _⟩
  have hsingle : single.WordShaped := ⟨hnames _, fun k hk => (hsort k hk).2, htests⟩
  have hgrouped : grouped.WordShaped := by
    refine ⟨hnames _, fun k hk => (hsort k hk).2, ?_⟩
    intro e he
    rw [List.mem_singleton.1 he]
    exact .all htests
  exact ⟨hsingle, hgrouped, rfl, Statement.text_determines_statement hsingle hgrouped (.select _ _) rfl⟩

end EntityQuery
