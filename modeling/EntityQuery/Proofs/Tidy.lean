import EntityQuery.Proofs.Grammar
import EntityQuery.Proofs.Rendering

/-!
# Texts that stand on their own

An expression is `Tidy` if its names are names, its patterns keep inside their literals and the query text
it takes as it is is balanced, all this down into conditions of relations and subqueries. Then its text is
balanced (`Tidy.balanced`), and so are the texts of its subqueries, which are never empty
(`Clauses.HasNames.text_ne_nil`).

Balance needs less than that. It is enough that every text at a leaf is balanced as it is written, whatever it is made
of (`Sealed`, `Sealed.balanced`); the names, patterns and texts of a tidy expression are (`Tidy.sealed`).
-/

namespace EntityQuery

open RawText

/-- Every name of the clauses is one: the entity type, the attributes and the paths of the sort keys. -/
structure Clauses.HasNames (c : Clauses) : Prop where
  entityType : IsName c.entityType
  projection : ∀ s ∈ c.projection, IsName s
  groupBy : ∀ s ∈ c.groupBy, IsName s
  sort : ∀ k ∈ c.sort, k.path.IsNamed

/-- Every name of the clauses is balanced. -/
structure Clauses.Sealed (c : Clauses) : Prop where
  entityType : Balanced c.entityType.toList
  projection : ∀ s ∈ c.projection, Balanced s.toList
  groupBy : ∀ s ∈ c.groupBy, Balanced s.toList
  sort : ∀ k ∈ c.sort, Balanced k.path.toText.toList

namespace Expr

/-- Every path, name, pattern and query text of the expression is balanced as it is written: its brackets match and its
literals are closed. -/
inductive Sealed : Expr → Prop
  | compare {path : Path} {op : Comparison} {value : Value} : Balanced path.toText.toList →
      (op.takesPattern = true → ∀ s, value = .text s → Balanced (Literal.quotePattern s).toList) →
      Sealed (compare path op value)
  | related {path : Path} {op : Relationship} {condition : Expr} : Balanced path.toText.toList → Sealed condition →
      Sealed (related path op condition)
  | values {path : Path} {op : Inclusion} {values : List Value} : Balanced path.toText.toList →
      Sealed (member path op (.values values))
  | subquery {path : Path} {op : Inclusion} {clauses : Clauses} : Balanced path.toText.toList → clauses.Sealed →
      (∀ e ∈ clauses.filters, Sealed e) → Sealed (member path op (.subquery clauses))
  | and {ts : List Expr} : (∀ t ∈ ts, Sealed t) → Sealed (and ts)
  | or {ts : List Expr} : (∀ t ∈ ts, Sealed t) → Sealed (or ts)
  | not {t : Expr} : Sealed t → Sealed (not t)
  | raw {text : String} : Balanced text.toList → Sealed (raw text)

/-- Nothing in the expression reaches out of its place in the text. -/
inductive Tidy : Expr → Prop
  | compare {path : Path} {op : Comparison} {value : Value} : path.IsNamed →
      (op.takesPattern = true → ∀ s, value = .text s → Literal.EvenRuns s.toList) →
      Tidy (compare path op value)
  | related {path : Path} {op : Relationship} {condition : Expr} : path.IsNamed → Tidy condition →
      Tidy (related path op condition)
  | values {path : Path} {op : Inclusion} {values : List Value} : path.IsNamed →
      Tidy (member path op (.values values))
  | subquery {path : Path} {op : Inclusion} {clauses : Clauses} : path.IsNamed → clauses.HasNames →
      (∀ e ∈ clauses.filters, Tidy e) → Tidy (member path op (.subquery clauses))
  | and {ts : List Expr} : (∀ t ∈ ts, Tidy t) → Tidy (and ts)
  | or {ts : List Expr} : (∀ t ∈ ts, Tidy t) → Tidy (or ts)
  | not {t : Expr} : Tidy t → Tidy (not t)
  | raw {text : String} : Balanced text.toList → Tidy (raw text)

variable {e : Expr} {ts : List Expr}

/-! ## Balance -/

theorem balanced_between (c : Connective) : Balanced (between c) := by
  cases c with
  | and => exact balanced_of_all (by decide)
  | or => exact balanced_of_all (by decide)

theorem balanced_part (c : Connective) (h : Balanced e.text.toList) : Balanced (part c e) := by
  rw [part]
  split
  · exact h.brackets
  · exact h

theorem balanced_parts (c : Connective) (h : ∀ t ∈ ts, Balanced t.text.toList) : Balanced (parts c ts) := by
  refine .intercalate (balanced_between c) ?_
  rw [List.forall_mem_map]
  exact fun t ht => balanced_part c (h t ht)

theorem balanced_group (c : Connective) (h : ∀ t ∈ live ts, Balanced t.text.toList) :
    Balanced (ofConnective c ts).text.toList := by
  rcases live_cases ts with hnone | ⟨t, hone, -, -⟩ | hmany
  · rw [text_of_live_nil c hnone]
    exact .nil
  · rw [text_of_live_one c hone]
    exact h t (by simp [hone])
  · have hparts : Balanced (parts c (live ts)) := balanced_parts c h
    rw [toList_join c hmany]
    cases c with
    | and => exact hparts
    | or => exact hparts.brackets

theorem isLiteral_operand {op : Comparison} {value : Value}
    (h : op.takesPattern = true → ∀ s, value = .text s → Literal.EvenRuns s.toList) :
    IsLiteral (operand op value).toList := by
  rw [operand]
  split
  next hpattern => exact isLiteral_encodePattern (h hpattern)
  · exact isLiteral_encode value

theorem isLiteral_operand_iff {op : Comparison} {value : Value} : IsLiteral (operand op value).toList ↔
    (op.takesPattern = true → ∀ s, value = .text s → Literal.EvenRuns s.toList) := by
  refine ⟨fun h hpattern => ?_, isLiteral_operand⟩
  rw [operand, if_pos hpattern] at h
  exact isLiteral_encodePattern_iff.1 h

theorem balanced_operand {op : Comparison} {value : Value}
    (h : op.takesPattern = true → ∀ s, value = .text s → Balanced (Literal.quotePattern s).toList) :
    Balanced (operand op value).toList := by
  rw [operand]
  split
  next hpattern =>
    cases value with
    | text s => exact h hpattern s rfl
    | _ =>
      refine (isLiteral_encodePattern fun s hs => ?_).balanced
      cases hs
  · exact (isLiteral_encode value).balanced

end Expr

open EntityQuery.Expr

theorem Path.IsNamed.balanced {p : Path} (h : p.IsNamed) : Balanced p.toText.toList :=
  balanced_of_isNameChar h.isNameChar

theorem IsName.balanced {s : String} (h : IsName s) : Balanced s.toList := balanced_of_isNameChar h.2

theorem balanced_listing {texts : List String} (h : ∀ s ∈ texts, Balanced s.toList) :
    Balanced (", ".intercalate texts).toList := by
  rw [String.toList_intercalate]
  refine .intercalate (balanced_of_all (by decide)) ?_
  rw [List.forall_mem_map]
  exact h

theorem exists_literals (values : List Value) : ∃ literals, literals ≠ [] ∧
    (∀ literal ∈ literals, IsLiteral literal) ∧ (valuesText values).toList = [',', ' '].intercalate literals := by
  rw [valuesText]
  split
  · refine ⟨[(Literal.quote "").toList], List.cons_ne_nil _ _, ?_, rfl⟩
    exact List.forall_mem_singleton.2 (isLiteral_quote "")
  next hsome =>
    refine ⟨(values.map Literal.encode).map String.toList, by simpa using hsome, ?_, ?_⟩
    · rw [List.map_map, List.forall_mem_map]
      exact fun v _ => isLiteral_encode v
    · rw [String.toList_intercalate]
      rfl

theorem balanced_literals {literals : List (List Char)} (h : ∀ literal ∈ literals, IsLiteral literal) :
    Balanced ([',', ' '].intercalate literals) :=
  .intercalate (balanced_of_all (by decide)) fun literal hmem => (h literal hmem).balanced

theorem literals_ne_nil {literals : List (List Char)} (hne : literals ≠ [])
    (h : ∀ literal ∈ literals, IsLiteral literal) : [',', ' '].intercalate literals ≠ [] := by
  obtain ⟨literal, rest, rfl⟩ := List.exists_cons_of_ne_nil hne
  exact intercalate_ne_nil rest (h literal List.mem_cons_self).ne_nil

theorem balanced_valuesText (values : List Value) : Balanced (valuesText values).toList := by
  obtain ⟨literals, -, hliterals, htext⟩ := exists_literals values
  rw [htext]
  exact balanced_literals hliterals

theorem balanced_clause {k : SortKey} (h : Balanced k.path.toText.toList) : Balanced k.clause.toList := by
  rw [SortKey.clause]
  split
  · exact h
  · rw [String.toList_append]
    exact h.append (balanced_of_all (by decide))

theorem balanced_sortKey {k : SortKey} (h : k.path.IsNamed) : Balanced k.clause.toList := balanced_clause h.balanced

theorem balanced_toString (n : Nat) : Balanced (toString n).toList :=
  (IsLiteral.number (isNumeral_toString n)).balanced

theorem balanced_joinParts {parts : List String} (h : ∀ part ∈ parts, Balanced part.toList) :
    Balanced (joinParts parts).toList := by
  rw [joinParts, String.toList_intercalate]
  refine .intercalate (balanced_of_all (by decide)) ?_
  rw [List.forall_mem_map]
  exact fun part hpart => h part (List.mem_filter.1 hpart).1

namespace Clauses.Sealed

variable {c : Clauses} (h : c.Sealed)

theorem balanced_keyword :
    ∀ keyword ∈ ["select", "from"] ++ (["where"] ++ (["group by", "order by"] ++ ["offset ", "limit "])),
      Balanced keyword.toList := by
  have hplain : ∀ keyword ∈ ["select", "from"] ++ (["where"] ++ (["group by", "order by"] ++ ["offset ", "limit "])),
      keyword.toList.all isPlain = true := by
    decide
  exact fun keyword hmem => balanced_of_all (hplain keyword hmem)

include h

theorem balanced_front (withProjection : Bool) : ∀ part ∈ c.front withProjection, Balanced part.toList := by
  intro part hpart
  rcases mem_front hpart with hkeyword | ⟨rfl, -⟩ | rfl
  · exact balanced_keyword part (List.mem_append_left _ hkeyword)
  · exact balanced_listing h.projection
  · exact h.entityType

theorem balanced_back : ∀ part ∈ c.back, Balanced part.toList := by
  intro part hpart
  rcases mem_back hpart with hkeyword | ⟨rfl, -⟩ | ⟨rfl, -⟩ | ⟨keyword, hkeyword, n, rfl⟩
  · exact balanced_keyword part (List.mem_append_right _ (List.mem_append_right _ (List.mem_append_left _ hkeyword)))
  · exact balanced_listing h.groupBy
  · refine balanced_listing ?_
    rw [List.forall_mem_map]
    exact fun k hk => balanced_clause (h.sort k hk)
  · rw [String.toList_append]
    refine (balanced_keyword keyword ?_).append (balanced_toString n)
    exact List.mem_append_right _ (List.mem_append_right _ (List.mem_append_right _ hkeyword))

theorem balanced_parts {condition : String} (hcondition : Balanced condition.toList) (withProjection : Bool) :
    ∀ part ∈ c.front withProjection ++ (conditionParts condition ++ c.back), Balanced part.toList := by
  intro part hpart
  rw [List.mem_append, List.mem_append, conditionParts, List.mem_ite_nil_left] at hpart
  rcases hpart with hpart | ⟨-, hpart⟩ | hpart
  · exact h.balanced_front withProjection part hpart
  · rcases List.mem_cons.1 hpart with rfl | hpart
    · exact balanced_keyword _ (by simp)
    · rwa [List.mem_singleton.1 hpart]
  · exact h.balanced_back part hpart

theorem balanced (hfilters : ∀ e ∈ c.filters, Balanced e.text.toList) (withProjection : Bool) :
    Balanced (c.text withProjection).toList := by
  have hpredicate : Balanced c.predicate.text.toList := by
    rw [Clauses.predicate, text_all]
    exact balanced_group .and fun e he => hfilters e (mem_live.1 he).1
  rw [Clauses.text_eq_parts]
  exact balanced_joinParts (h.balanced_parts hpredicate withProjection)

end Clauses.Sealed

theorem Expr.Sealed.balanced {e : Expr} (h : e.Sealed) : Balanced e.text.toList := by
  induction h with
  | @compare path op value hpath hpattern =>
    rw [toList_compare]
    exact balanced_written hpath (.comparison op) (balanced_operand hpattern)
  | @related path op condition hpath _ ih =>
    rw [toList_related]
    exact balanced_written hpath (.relationship op) ih.brackets
  | @values path op values hpath =>
    rw [toList_member, Members.text]
    exact balanced_written hpath (.inclusion op) (balanced_valuesText values).brackets
  | @subquery path op clauses hpath hclauses _ ih =>
    rw [toList_member, Members.text]
    exact balanced_written hpath (.inclusion op) (hclauses.balanced ih true).brackets
  | and _ ih => exact balanced_group .and fun t ht => ih t (mem_live.1 ht).1
  | or _ ih => exact balanced_group .or fun t ht => ih t (mem_live.1 ht).1
  | not _ ih =>
    rw [toList_not]
    refine (balanced_of_all (by decide)).append (.cons (by decide) ?_)
    split
    · exact ih.brackets
    · exact ih
  | raw hraw => exact hraw

/-! ## Tidy expressions -/

namespace Clauses.HasNames

variable {c : Clauses} (h : c.HasNames)
include h

theorem sealed : c.Sealed where
  entityType := h.entityType.balanced
  projection s hs := (h.projection s hs).balanced
  groupBy s hs := (h.groupBy s hs).balanced
  sort k hk := (h.sort k hk).balanced

theorem balanced_parts {condition : String} (hcondition : Balanced condition.toList) (withProjection : Bool) :
    ∀ part ∈ c.front withProjection ++ (conditionParts condition ++ c.back), Balanced part.toList :=
  h.sealed.balanced_parts hcondition withProjection

theorem balanced (hfilters : ∀ e ∈ c.filters, Balanced e.text.toList) (withProjection : Bool) :
    Balanced (c.text withProjection).toList :=
  h.sealed.balanced hfilters withProjection

end Clauses.HasNames

theorem Expr.Tidy.sealed {e : Expr} (h : e.Tidy) : e.Sealed := by
  induction h with
  | compare hpath hpattern =>
    refine .compare hpath.balanced fun htakes s hs => ?_
    exact (isLiteral_encodePattern (v := .text s) fun r hr => hpattern htakes r (hs.trans hr)).balanced
  | related hpath _ ih => exact .related hpath.balanced ih
  | values hpath => exact .values hpath.balanced
  | subquery hpath hnames _ ih => exact .subquery hpath.balanced hnames.sealed ih
  | and _ ih => exact .and ih
  | or _ ih => exact .or ih
  | not _ ih => exact .not ih
  | raw hraw => exact .raw hraw

/-- **The text of a tidy expression is balanced.** -/
theorem Expr.Tidy.balanced {e : Expr} (h : e.Tidy) : Balanced e.text.toList := h.sealed.balanced

/-! ## Texts that are not blank -/

theorem joinParts_ne_nil {parts : List String} {part : String} (hmem : part ∈ parts) (h : part ≠ "") :
    (joinParts parts).toList ≠ [] := by
  have hkept : part ∈ parts.filter (!·.isEmpty) := by
    rw [List.mem_filter]
    exact ⟨hmem, by simpa using h⟩
  obtain ⟨first, rest, hparts⟩ := List.exists_cons_of_ne_nil (List.ne_nil_of_mem hkept)
  have hfirst : first ∈ parts.filter (!·.isEmpty) := by
    rw [hparts]
    exact List.mem_cons_self
  rw [joinParts, String.toList_intercalate, hparts, List.map_cons]
  apply intercalate_ne_nil
  simpa using (List.mem_filter.1 hfirst).2

theorem joinParts_cons (part : String) (parts : List String) : joinParts (part :: parts) =
    if part.isEmpty then joinParts parts
    else if (joinParts parts).isEmpty then part
    else part ++ " " ++ joinParts parts := by
  by_cases hpart : part.isEmpty
  · rw [if_pos hpart, joinParts, List.filter_cons_of_neg (by simpa using hpart)]
    rfl
  rw [if_neg hpart, joinParts, List.filter_cons_of_pos (by simpa using hpart)]
  by_cases hrest : parts.filter (!·.isEmpty) = []
  · have hblank : joinParts parts = "" := by
      rw [joinParts, hrest]
      rfl
    rw [hblank, if_pos (String.isEmpty_iff.2 rfl), hrest]
    exact String.intercalate_singleton
  · have hkept : ¬(joinParts parts).isEmpty := by
      obtain ⟨kept, hmem⟩ := List.exists_mem_of_ne_nil _ hrest
      obtain ⟨hmem, hkept⟩ := List.mem_filter.1 hmem
      rw [String.isEmpty_iff, ← String.toList_eq_nil_iff]
      exact joinParts_ne_nil hmem (by simpa using hkept)
    rw [if_neg hkept]
    exact String.intercalate_cons_of_ne_nil hrest

theorem joinParts_append (front back : List String) :
    joinParts (front ++ back) = joinParts (front ++ [joinParts back]) := by
  induction front with
  | nil =>
    rw [List.nil_append, List.nil_append, joinParts_cons]
    split
    next hblank => exact String.isEmpty_iff.1 hblank
    · exact (if_pos rfl).symm
  | cons part front ih => rw [List.cons_append, List.cons_append, joinParts_cons, joinParts_cons, ih]

theorem listing_ne_nil {texts : List String} (hne : texts ≠ []) (h : ∀ s ∈ texts, s.toList ≠ []) :
    (", ".intercalate texts).toList ≠ [] := by
  obtain ⟨s, rest, rfl⟩ := List.exists_cons_of_ne_nil hne
  rw [String.toList_intercalate, List.map_cons]
  exact intercalate_ne_nil _ (h s (by simp))

theorem valuesText_ne_nil (values : List Value) : (valuesText values).toList ≠ [] := by
  obtain ⟨literals, hne, hliterals, htext⟩ := exists_literals values
  rw [htext]
  exact literals_ne_nil hne hliterals

theorem Clauses.HasNames.text_ne_nil {c : Clauses} (h : c.HasNames) (withProjection : Bool) :
    (c.text withProjection).toList ≠ [] := by
  rw [Clauses.text_eq]
  exact joinParts_ne_nil (by simp [clauseParts]) h.entityType.1

end EntityQuery
