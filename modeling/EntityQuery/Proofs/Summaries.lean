import EntityQuery.Proofs.Saying
import EntityQuery.Proofs.Sections
import EntityQuery.Proofs.Tidy

/-!
# The words of clauses

For clauses whose names are names and whose conditions are built from tests (`Clauses.WordShaped`), the words of the text
are those of a `summary` of the clauses (`WordShaped.words_text`), and the summary is one that is read back
(`WordShaped.summary_isProper`).
-/

namespace EntityQuery

open RawText EntityQuery.Expr

/-! ## Word-shaped clauses -/

namespace Expr

/-- Leaves that are one predicate: everything in them is tidy, and the path is no word of the grammar. -/
inductive IsTest : Expr → Prop
  | compare {path : Path} {op : Comparison} {value : Value} : path.toText.toList ∉ reservedWords →
      (compare path op value).Tidy → IsTest (compare path op value)
  | related {path : Path} {op : Relationship} {condition : Expr} : path.toText.toList ∉ reservedWords →
      (related path op condition).Tidy → IsTest (related path op condition)
  | member {path : Path} {op : Inclusion} {members : Members} : path.toText.toList ∉ reservedWords →
      (member path op members).Tidy → IsTest (member path op members)

theorem IsTest.spoken {e : Expr} (h : IsTest e) : Spoken IsTriple e := by
  cases h with
  | compare hfree htidy =>
    refine spoken_predicate ?_ rfl
    cases htidy with
    | compare hpath hpattern =>
      rw [toList_compare]
      exact .mk hpath.isNameChar hfree (.comparison _) (.literal (isLiteral_operand hpattern))
  | related hfree htidy =>
    refine spoken_predicate ?_ rfl
    cases htidy with
    | related hpath hcondition =>
      rw [toList_related]
      exact .mk hpath.isNameChar hfree (.relationship _) (.brackets hcondition.balanced)
  | member hfree htidy =>
    refine spoken_predicate ?_ rfl
    rw [toList_member]
    cases htidy with
    | values hpath => exact .mk hpath.isNameChar hfree (.inclusion _) (.brackets (balanced_valuesText _))
    | subquery hpath hnames hfilters =>
      exact .mk hpath.isNameChar hfree (.inclusion _)
        (.brackets (hnames.balanced (fun e he => (hfilters e he).balanced) true))

end Expr

/-- Clauses whose names are names, whose sort keys have paths, and whose conditions are built from tests. -/
structure Clauses.WordShaped (c : Clauses) : Prop where
  names : c.HasNames
  sort : ∀ k ∈ c.sort, k.path.segments ≠ []
  filters : ∀ e ∈ c.filters, Built IsTest e

/-! ## Names and numbers as words -/

theorem IsName.words_eq {s : String} (h : IsName s) : words s.toList = [s.toList] := words_of_isNameChar h.2

theorem getLast_ne_comma {cs : List Char} (h : ∀ c ∈ cs, isNameChar c = true) : cs.getLast? ≠ some ',' :=
  fun hlast => not_mem_of_isNameChar h (by simp) (List.mem_of_getLast? hlast)

theorem IsNumeral.words_eq {cs : List Char} (h : IsNumeral cs) : words cs = [cs] := (IsLiteral.number h).words_eq

theorem words_commas {texts : List String} (hne : texts ≠ []) (h : ∀ s ∈ texts, Balanced s.toList) :
    words (", ".intercalate texts).toList = listingWords (texts.map fun s => words s.toList) := by
  have hsep : ", ".toList = [',', ' '] := rfl
  have hbalanced : ∀ cs ∈ texts.map String.toList, Balanced cs := by
    rw [List.forall_mem_map]
    exact h
  have hmap : texts.map String.toList ≠ [] := by
    rwa [ne_eq, List.map_eq_nil_iff]
  rw [String.toList_intercalate, hsep, words_listing hmap hbalanced, List.map_map]
  rfl

theorem words_names {names : List String} (hne : names ≠ []) (h : ∀ s ∈ names, IsName s) :
    words (", ".intercalate names).toList = listingWords ((names.map String.toList).map fun name => [name]) := by
  rw [words_commas hne fun s hs => (h s hs).balanced, List.map_map]
  exact congrArg listingWords (List.map_congr_left fun s hs => (h s hs).words_eq)

def SortKey.summary (k : SortKey) : List Char × Bool := (k.path.toText.toList, k.isDescending)

theorem SortKey.words_clause {k : SortKey} (h : k.path.IsNamed) : words k.clause.toList = keyWords k.summary := by
  obtain ⟨path, direction⟩ := k
  cases direction with
  | ascending =>
    have hsummary : SortKey.summary ⟨path, .ascending⟩ = (path.toText.toList, false) := rfl
    rw [SortKey.clause, hsummary, words_of_isNameChar h.isNameChar, keyWords, if_neg Bool.false_ne_true]
  | descending =>
    have hsummary : SortKey.summary ⟨path, .descending⟩ = (path.toText.toList, true) := rfl
    have htext : (SortKey.clause ⟨path, .descending⟩).toList = path.toText.toList ++ ' ' :: descendingWord := by
      rw [SortKey.clause, String.toList_append]
      rfl
    have hword : words descendingWord = [descendingWord] := words_of_no_blank (by decide)
    rw [htext, words_append h.balanced, words_of_isNameChar h.isNameChar, hsummary, keyWords, if_pos rfl, hword,
      List.singleton_append]

theorem words_sortKeys {keys : List SortKey} (hne : keys ≠ []) (h : ∀ k ∈ keys, k.path.IsNamed) :
    words (", ".intercalate (keys.map SortKey.clause)).toList =
      listingWords ((keys.map SortKey.summary).map keyWords) := by
  have hmap : keys.map SortKey.clause ≠ [] := by
    rwa [ne_eq, List.map_eq_nil_iff]
  have hbalanced : ∀ s ∈ keys.map SortKey.clause, Balanced s.toList := by
    rw [List.forall_mem_map]
    exact fun k hk => balanced_sortKey (h k hk)
  rw [words_commas hmap hbalanced, List.map_map, List.map_map]
  exact congrArg listingWords (List.map_congr_left fun k hk => SortKey.words_clause (h k hk))

theorem words_number (keyword : String) (word : List Char) (hkeyword : keyword.toList = word ++ [' '])
    (hword : words word = [word]) (hbalanced : Balanced word) (n : Nat) :
    words (keyword ++ toString n).toList = [word, (toString n).toList] := by
  have htext : (keyword ++ toString n).toList = word ++ ' ' :: (toString n).toList := by
    rw [String.toList_append, hkeyword, List.append_assoc]
    rfl
  rw [htext, words_append hbalanced, (isNumeral_toString n).words_eq, hword]
  rfl

/-! ## The words of clauses -/

namespace Clauses

def summary (c : Clauses) (withProjection : Bool) : Summary where
  projection := if withProjection then c.projection.map String.toList else []
  entityType := c.entityType.toList
  condition := if c.predicate.text.isEmpty then [] else words c.predicate.text.toList
  groupBy := c.groupBy.map String.toList
  sort := c.sort.map SortKey.summary
  offset := if c.offset = 0 then [] else [(toString c.offset.toNat).toList]
  limit := (c.limit.map fun n => (toString n.toNat).toList).toList

variable {c : Clauses} (h : c.WordShaped)
include h

theorem WordShaped.predicate_reads : c.predicate.text = "" ∨
    ∃ r, Reads IsTriple .sentence c.predicate.text.toList r := by
  cases hempty : c.predicate.isEmpty with
  | true =>
    left
    have hlive : live c.filters = [] := by
      rw [live_eq_nil_iff, ← isEmpty_group .and]
      exact hempty
    rw [← String.toList_eq_nil_iff, predicate, text_all]
    exact text_of_live_nil .and hlive
  | false =>
    right
    obtain ⟨r, hr, -⟩ := ((Built.all h.filters).canonical.spoken (fun _ htest _ => htest.spoken) hempty).alone
    exact ⟨r, hr⟩

theorem WordShaped.predicate_balanced : Balanced c.predicate.text.toList := by
  rcases h.predicate_reads with hempty | ⟨r, hr⟩
  · rw [hempty]
    exact .nil
  · exact hr.balanced fun _ => id

theorem WordShaped.balanced (withProjection : Bool) : Balanced (c.text withProjection).toList := by
  rw [text_eq_parts]
  exact balanced_joinParts (h.names.balanced_parts h.predicate_balanced withProjection)

theorem WordShaped.summary_isProper (withProjection : Bool) : (c.summary withProjection).IsProper where
  projection := by
    cases withProjection with
    | false => exact nofun
    | true =>
      rw [summary, if_pos rfl, List.forall_mem_map]
      exact fun s hs => getLast_ne_comma (h.names.projection s hs).2
  condition := by
    by_cases hempty : c.predicate.text.isEmpty = true
    · exact .inl (if_pos hempty)
    · obtain ⟨r, hr⟩ := h.predicate_reads.resolve_left (by simpa using hempty)
      exact .inr ⟨_, r, if_neg hempty, hr⟩
  groupBy := by
    rw [summary, List.forall_mem_map]
    exact fun s hs => getLast_ne_comma (h.names.groupBy s hs).2
  sort := by
    rw [summary, List.forall_mem_map]
    exact fun k hk => getLast_ne_comma (h.names.sort k hk).isNameChar
  offset := by
    by_cases hzero : c.offset = 0
    · exact .inl (if_pos hzero)
    · exact .inr ⟨_, if_neg hzero, isNumeral_toString _⟩
  limit := by
    rw [summary]
    cases c.limit with
    | none => exact .inl rfl
    | some n => exact .inr ⟨_, rfl, isNumeral_toString _⟩

theorem WordShaped.parts_ne_nil (withProjection : Bool) :
    ∀ part ∈ c.front withProjection ++ (conditionParts c.predicate.text ++ c.back), part.toList ≠ [] := by
  have hplain : ∀ keyword ∈ ["select", "from", "where", "group by", "order by", "offset ", "limit "],
      keyword.toList ≠ [] := by
    decide
  have hname : ∀ s : String, IsName s → s.toList ≠ [] := fun s hs => by simpa using hs.1
  intro part hpart
  rw [List.mem_append, List.mem_append, conditionParts, List.mem_ite_nil_left] at hpart
  rcases hpart with hpart | ⟨hne, hpart⟩ | hpart
  · rcases mem_front hpart with hkeyword | ⟨rfl, hne⟩ | rfl
    · exact hplain part (List.mem_append_left _ hkeyword)
    · exact listing_ne_nil hne fun s hs => hname s (h.names.projection s hs)
    · exact hname _ h.names.entityType
  · rcases List.mem_cons.1 hpart with rfl | hpart
    · decide
    · rw [List.mem_singleton.1 hpart]
      simpa using hne
  · rcases mem_back hpart with hkeyword | ⟨rfl, hne⟩ | ⟨rfl, hne⟩ | ⟨keyword, hkeyword, n, rfl⟩
    · exact hplain part (List.mem_append_left _ (List.mem_append_right ["select", "from", "where"] hkeyword))
    · exact listing_ne_nil hne fun s hs => hname s (h.names.groupBy s hs)
    · refine listing_ne_nil (by simpa using hne) ?_
      rw [List.forall_mem_map]
      intro k hk
      have hpath := (h.names.sort k hk).toText_ne_nil (h.sort k hk)
      rw [SortKey.clause]
      split
      · exact hpath
      · simp [hpath]
    · rw [String.toList_append]
      exact List.append_ne_nil_of_right_ne_nil _ (isNumeral_toString n).1

theorem WordShaped.words_text_eq_flatMap (withProjection : Bool) :
    words (c.text withProjection).toList =
      (c.front withProjection ++ (conditionParts c.predicate.text ++ c.back)).flatMap fun part => words part.toList := by
  have hkept : ((c.front withProjection ++ (conditionParts c.predicate.text ++ c.back)).map String.toList).filter
      (!·.isEmpty) = (c.front withProjection ++ (conditionParts c.predicate.text ++ c.back)).map String.toList := by
    rw [List.filter_eq_self, List.forall_mem_map]
    intro part hpart
    simpa using h.parts_ne_nil withProjection part hpart
  have hbalanced : ∀ cs ∈ (c.front withProjection ++ (conditionParts c.predicate.text ++ c.back)).map String.toList,
      Balanced cs := by
    rw [List.forall_mem_map]
    exact h.names.balanced_parts h.predicate_balanced withProjection
  rw [text_eq_parts, toList_joinParts, hkept, words_intercalate _ hbalanced, List.flatMap_map]
  simp [front]

omit h in
theorem words_section {α : Type} {xs : List α} {texts : List String} {intro : String} {keyword : List (List Char)}
    (row : α → List (List Char)) (hintro : words intro.toList = keyword) (hrow : ∀ x, row x ≠ [])
    (hlist : xs ≠ [] → words (", ".intercalate texts).toList = listingWords (xs.map row)) :
    ((if xs.isEmpty then [] else [intro, ", ".intercalate texts]).flatMap fun part => words part.toList) =
      sectionWords keyword (listingWords (xs.map row)) := by
  by_cases hnone : xs = []
  · subst hnone
    rfl
  · have hrows : ∀ ws ∈ xs.map row, ws ≠ [] := by
      rw [List.forall_mem_map]
      exact fun x _ => hrow x
    have hbody : listingWords (xs.map row) ≠ [] :=
      fun hnil => hnone (List.map_eq_nil_iff.1 (listingWords_eq_nil hrows hnil))
    rw [if_neg (by simpa using hnone), sectionWords, if_neg hbody, List.flatMap_cons, List.flatMap_singleton,
      hintro, hlist hnone]

theorem WordShaped.words_front (withProjection : Bool) :
    ((c.front withProjection).flatMap fun part => words part.toList) =
      (if (c.summary withProjection).projection = [] then []
        else "select".toList ::
          (listingWords ((c.summary withProjection).projection.map fun name => [name]) ++ ["from".toList])) ++
      [c.entityType.toList] := by
  have htype : words c.entityType.toList = [c.entityType.toList] := h.names.entityType.words_eq
  have hselect : words "select".toList = ["select".toList] := words_of_no_blank (by decide)
  have hfrom : words "from".toList = ["from".toList] := words_of_no_blank (by decide)
  rw [front, List.flatMap_append, List.flatMap_singleton, htype]
  congr 1
  by_cases hnone : c.projection = []
  · simp [hnone, summary]
  · cases withProjection with
    | false => simp [summary]
    | true =>
      have hmap : c.projection.map String.toList ≠ [] := by
        rwa [ne_eq, List.map_eq_nil_iff]
      rw [summary, if_pos rfl, if_neg hmap, if_pos (by simp [hnone]), List.flatMap_cons, List.flatMap_cons,
        List.flatMap_singleton, hselect, hfrom, words_names hnone h.names.projection]
      rfl

omit h in
theorem words_conditionParts (withProjection : Bool) :
    ((conditionParts c.predicate.text).flatMap fun part => words part.toList) =
      sectionWords ["where".toList] (c.summary withProjection).condition := by
  have hwhere : words "where".toList = ["where".toList] := words_of_no_blank (by decide)
  by_cases hempty : c.predicate.text.isEmpty = true
  · have hcondition : (c.summary withProjection).condition = [] := if_pos hempty
    rw [conditionParts, if_pos hempty, hcondition]
    rfl
  · have hcondition : (c.summary withProjection).condition = words c.predicate.text.toList := if_neg hempty
    have hne : words c.predicate.text.toList ≠ [] := wordsFrom_ne_nil _ _
    rw [conditionParts, if_neg hempty, hcondition, sectionWords, if_neg hne, List.flatMap_cons,
      List.flatMap_singleton, hwhere]

theorem WordShaped.words_groupBy :
    ((if c.groupBy.isEmpty then [] else ["group by", ", ".intercalate c.groupBy]).flatMap fun part =>
      words part.toList) =
    sectionWords ["group".toList, "by".toList]
      (listingWords ((c.groupBy.map String.toList).map fun name => [name])) := by
  rw [List.map_map]
  refine words_section _ rfl (fun _ => List.cons_ne_nil _ _) fun hne => ?_
  rw [words_names hne h.names.groupBy, List.map_map]

theorem WordShaped.words_sort :
    ((if c.sort.isEmpty then [] else ["order by", ", ".intercalate (c.sort.map SortKey.clause)]).flatMap fun part =>
      words part.toList) =
    sectionWords ["order".toList, "by".toList] (listingWords ((c.sort.map SortKey.summary).map keyWords)) := by
  rw [List.map_map]
  refine words_section _ rfl (fun _ => keyWords_ne_nil _) fun hne => ?_
  rw [words_sortKeys hne h.names.sort, List.map_map]

omit h in
theorem words_offset (withProjection : Bool) :
    ((if c.offset = 0 then [] else ["offset " ++ toString c.offset.toNat]).flatMap fun part => words part.toList) =
      sectionWords ["offset".toList] (c.summary withProjection).offset := by
  have hnumber := words_number "offset " "offset".toList rfl (words_of_no_blank (by decide))
    (balanced_of_all (by decide)) c.offset.toNat
  by_cases hzero : c.offset = 0
  · have hsummary : (c.summary withProjection).offset = [] := if_pos hzero
    rw [if_pos hzero, hsummary]
    rfl
  · have hsummary : (c.summary withProjection).offset = [(toString c.offset.toNat).toList] := if_neg hzero
    rw [if_neg hzero, hsummary, List.flatMap_singleton, hnumber]
    rfl

omit h in
theorem words_limit (withProjection : Bool) :
    ((limitParts c.limit).flatMap fun part => words part.toList) =
      sectionWords ["limit".toList] (c.summary withProjection).limit := by
  rw [summary]
  cases c.limit with
  | none => rfl
  | some n =>
    have hnumber := words_number "limit " "limit".toList rfl (words_of_no_blank (by decide))
      (balanced_of_all (by decide)) n.toNat
    rw [limitParts, List.flatMap_singleton, hnumber]
    rfl

theorem WordShaped.words_back (withProjection : Bool) (tail : List (List Char)) :
    (c.back.flatMap fun part => words part.toList) ++ tail = (c.summary withProjection).endWords tail := by
  rw [back, List.flatMap_append, List.flatMap_append, List.flatMap_append, h.words_groupBy, h.words_sort,
    words_offset withProjection, words_limit withProjection]
  simp only [Summary.endWords, List.append_assoc]
  rfl

/-- **The words of the clauses' text are those of their summary.** -/
theorem WordShaped.words_text (withProjection : Bool) (tail : List (List Char)) :
    words (c.text withProjection).toList ++ tail = (c.summary withProjection).words tail := by
  rw [h.words_text_eq_flatMap, List.flatMap_append, List.flatMap_append, h.words_front,
    words_conditionParts withProjection, List.append_assoc, List.append_assoc (sectionWords _ _),
    h.words_back withProjection tail, List.append_assoc]
  rfl

end Clauses

end EntityQuery
