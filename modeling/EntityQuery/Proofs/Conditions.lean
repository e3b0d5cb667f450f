import EntityQuery.Proofs.EmptyTerms
import EntityQuery.Proofs.NestedGrammar

/-!
# Conditions in the brackets of relations

What a relation made from criteria writes between its brackets is the conjunction of the criteria. It is empty, and so no
sentence, just if no criterion places a constraint (`relations_nest_conditions`): the brackets are written all the same.

An expression whose names, patterns and query texts are those of the grammar (`Speakable`) is written as a sentence if
every relation in it has something in its brackets (`Speakable.wellWritten`). If one has not (`HasBareRelation`), its
brackets stand in the text (`Speakable.emptyBrackets`), and a sentence has none.
-/

namespace EntityQuery

open RawText EntityQuery.Expr

/-! ## Expressions that are written in the grammar -/

namespace Expr

/-- Paths, names, patterns and query texts are those of the grammar, and no negation stands before an empty expression. A
relation may have nothing in its brackets. -/
inductive Speakable : Expr → Prop
  | compare {path : Path} {op : Comparison} {value : Value} : path.IsSubject →
      (op.takesPattern = true → ∀ s, value = .text s → Literal.EvenRuns s.toList) →
      Speakable (compare path op value)
  | related {path : Path} {op : Relationship} {condition : Expr} : path.IsSubject → condition.isEmpty = false →
      Speakable condition → Speakable (related path op condition)
  | bare {path : Path} {op : Relationship} {condition : Expr} : path.IsSubject → condition.text = "" →
      Speakable (related path op condition)
  | values {path : Path} {op : Inclusion} {values : List Value} : path.IsSubject →
      Speakable (member path op (.values values))
  | subquery {path : Path} {op : Inclusion} {clauses : Clauses} : path.IsSubject → clauses.HasNames →
      (∀ e ∈ live clauses.filters, Speakable e) → Speakable (member path op (.subquery clauses))
  | group (c : Connective) {ts : List Expr} : (∀ t ∈ live ts, Speakable t) → Speakable (ofConnective c ts)
  | not {t : Expr} : t.isEmpty = false → Speakable t → Speakable (not t)
  | raw {text : String} : Grammatical .sentence text.toList → Speakable (raw text)

/-- Somewhere in what is written of the expression, a relation has nothing in its brackets. -/
inductive HasBareRelation : Expr → Prop
  | here {path : Path} {op : Relationship} {condition : Expr} : condition.text = "" →
      HasBareRelation (related path op condition)
  | related {path : Path} {op : Relationship} {condition : Expr} : HasBareRelation condition →
      HasBareRelation (related path op condition)
  | subquery {path : Path} {op : Inclusion} {clauses : Clauses} {e : Expr} : e ∈ live clauses.filters →
      HasBareRelation e → HasBareRelation (member path op (.subquery clauses))
  | and {ts : List Expr} {t : Expr} : t ∈ live ts → HasBareRelation t → HasBareRelation (and ts)
  | or {ts : List Expr} {t : Expr} : t ∈ live ts → HasBareRelation t → HasBareRelation (or ts)
  | not {t : Expr} : HasBareRelation t → HasBareRelation (not t)

/-- The text is a sentence, and it is a term unless brackets are due under `not`. -/
structure WellWritten (e : Expr) : Prop where
  sentence : Grammatical .sentence e.text.toList
  term : e.bracketsUnderNot = false → Grammatical .term e.text.toList

variable {e t : Expr} {ts : List Expr} {c : Connective}

theorem wellWritten_of_term (h : Grammatical .term e.text.toList) : WellWritten e := ⟨.term h, fun _ => h⟩

/-- What stands without brackets among others need not be a term (query text alone in a group is one of two), but it is
a sentence, and sentences can be joined. -/
theorem WellWritten.part (c : Connective) (h : WellWritten t) : Grammatical .sentence (part c t) := by
  rw [Expr.part]
  split
  · exact .term (.brackets h.sentence)
  · exact h.sentence

theorem grammatical_parts (c : Connective) (hne : ts ≠ []) (h : ∀ t ∈ ts, WellWritten t) :
    Grammatical .sentence (parts c ts) := by
  induction ts with
  | nil => exact absurd rfl hne
  | cons t ts ih =>
    obtain ⟨ht, hts⟩ := List.forall_mem_cons.1 h
    cases ts with
    | nil => simpa [parts] using ht.part c
    | cons u us =>
      have hrest := ih (List.cons_ne_nil u us) hts
      have htext : parts c (t :: u :: us) = Expr.part c t ++ (between c ++ parts c (u :: us)) := by
        simp [parts, List.intercalate_cons_cons]
      rw [htext]
      exact (ht.part c).append c hrest

theorem wellWritten_group (c : Connective) (hsome : live ts ≠ []) (h : ∀ t ∈ live ts, WellWritten t) :
    WellWritten (ofConnective c ts) := by
  rcases live_cases ts with hnone | ⟨t, hone, -, -⟩ | hmany
  · exact absurd hnone hsome
  · have ht := h t (by simp [hone])
    refine ⟨?_, fun hbare => ?_⟩
    · rw [text_of_live_one c hone]
      exact ht.sentence
    · rw [bracketsUnderNot_of_live_one c hone] at hbare
      rw [text_of_live_one c hone]
      exact ht.term hbare
  · have hparts := grammatical_parts c hsome h
    have htext := toList_join c hmany
    cases c with
    | or =>
      refine wellWritten_of_term ?_
      rw [htext]
      exact .brackets hparts
    | and =>
      refine ⟨htext ▸ hparts, fun hbare => ?_⟩
      rw [bracketsUnderNot_of_many .and hmany] at hbare
      cases hbare

theorem hasBareRelation_ofConnective (c : Connective) :
    HasBareRelation (ofConnective c ts) ↔ ∃ t ∈ live ts, HasBareRelation t := by
  cases c with
  | and =>
    refine ⟨fun h => ?_, fun ⟨t, ht, h⟩ => .and ht h⟩
    cases h with
    | and ht h => exact ⟨_, ht, h⟩
  | or =>
    refine ⟨fun h => ?_, fun ⟨t, ht, h⟩ => .or ht h⟩
    cases h with
    | or ht h => exact ⟨_, ht, h⟩

theorem Speakable.wellWritten (h : Speakable e) (hlive : e.isEmpty = false) (hfull : ¬ HasBareRelation e) :
    WellWritten e := by
  induction h with
  | @compare path op value hpath hpattern =>
    refine wellWritten_of_term ?_
    rw [toList_compare]
    exact .comparison op hpath (isLiteral_operand hpattern)
  | @related path op condition hpath hcondition _ ih =>
    refine wellWritten_of_term ?_
    rw [toList_related]
    exact .relationship op hpath (ih hcondition fun hbare => hfull (.related hbare)).sentence
  | bare _ htext => exact absurd (.here htext) hfull
  | @values path op values hpath =>
    obtain ⟨literals, hne, hliterals, htext⟩ := exists_literals values
    refine wellWritten_of_term ?_
    rw [toList_member, Members.text, htext]
    exact .listing op hpath hne hliterals
  | @subquery path op clauses hpath hnames _ ih =>
    refine wellWritten_of_term ?_
    rw [toList_member, Members.text, Clauses.text_eq_parts]
    -- inside the subquery the filters are written as a group under `and`
    refine .subselect op hpath hnames fun hshows => ?_
    rw [Clauses.predicate, ne_eq, text_all_eq_empty_iff] at hshows
    rw [Clauses.predicate, text_all]
    refine (wellWritten_group .and hshows fun e he => ?_).sentence
    exact ih e he (mem_live.1 he).2 fun hbare => hfull (.subquery he hbare)
  | group c _ ih =>
    refine wellWritten_group c ((isEmpty_ofConnective_eq_false_iff c).1 hlive) fun t ht => ?_
    exact ih t ht (mem_live.1 ht).2 fun hbare => hfull ((hasBareRelation_ofConnective c).2 ⟨t, ht, hbare⟩)
  | @not t ht _ ih =>
    have hterm := ih ht fun hbare => hfull (.not hbare)
    refine wellWritten_of_term ?_
    rw [toList_not]
    split
    · exact .not (.brackets hterm.sentence)
    next hbare => exact .not (hterm.term (by simpa using hbare))
  | raw h =>
    refine ⟨h, fun hbare => h.term_of_no_connective ?_⟩
    exact hbare

theorem emptyBrackets_group (c : Connective) (hbalanced : ∀ t ∈ live ts, Balanced t.text.toList) (ht : t ∈ live ts)
    (h : EmptyBrackets t.text.toList) : EmptyBrackets (ofConnective c ts).text.toList := by
  rcases live_cases ts with hnone | ⟨u, hone, -, -⟩ | hmany
  · rw [hnone] at ht
    cases ht
  · rw [hone, List.mem_singleton] at ht
    rwa [text_of_live_one c hone, ← ht]
  · have hpart : EmptyBrackets (part c t) := by
      rw [part]
      split
      · exact h.brackets
      · exact h
    have hparts : EmptyBrackets (parts c (live ts)) := by
      refine .intercalate (balanced_between c) ?_ ⟨part c t, List.mem_map_of_mem ht, hpart⟩
      rw [List.forall_mem_map]
      exact fun u hu => balanced_part c (hbalanced u hu)
    rw [toList_join c hmany]
    cases c with
    | and => exact hparts
    | or => exact hparts.brackets

theorem Speakable.balanced (h : Speakable e) : Balanced e.text.toList := by
  have hwritten {path : Path} {op inner : List Char} (hpath : path.IsSubject) (hop : IsOperator op)
      (hinner : Balanced inner) : Balanced (path.toText.toList ++ ' ' :: (op ++ ' ' :: inner)) :=
    balanced_written hpath.named.balanced hop hinner
  induction h with
  | compare hpath hpattern =>
    rw [toList_compare]
    exact hwritten hpath (.comparison _) (isLiteral_operand hpattern).balanced
  | related hpath _ _ ih =>
    rw [toList_related]
    exact hwritten hpath (.relationship _) ih.brackets
  | bare hpath htext =>
    rw [toList_related, htext]
    exact hwritten hpath (.relationship _) Balanced.nil.brackets
  | @values path op values hpath =>
    rw [toList_member, Members.text]
    exact hwritten hpath (.inclusion op) (balanced_valuesText values).brackets
  | @subquery path op clauses hpath hnames _ ih =>
    have hcondition : Balanced clauses.predicate.text.toList := by
      rw [Clauses.predicate, text_all]
      exact balanced_group .and ih
    rw [toList_member, Members.text, Clauses.text_eq_parts]
    exact hwritten hpath (.inclusion op) (balanced_joinParts (hnames.balanced_parts hcondition true)).brackets
  | group c _ ih => exact balanced_group c ih
  | @not t _ _ ih =>
    have hnot : Balanced (negationKeyword.toList ++ [' ']) := balanced_of_all (by decide)
    rw [toList_not, List.append_cons]
    split
    · exact hnot.append ih.brackets
    · exact hnot.append ih
  | raw h => exact h.balanced

theorem Speakable.emptyBrackets (h : Speakable e) (hbare : HasBareRelation e) : EmptyBrackets e.text.toList := by
  -- down to the bare relation; what is written around its brackets is balanced, so they stay outside literals
  induction h with
  | compare => cases hbare
  | related hpath _ _ ih =>
    rw [toList_related]
    cases hbare with
    | here htext =>
      rw [htext]
      exact .written hpath.named.balanced (.relationship _) emptyBrackets_nil
    | related hbare => exact .written hpath.named.balanced (.relationship _) (ih hbare).brackets
  | bare hpath htext =>
    rw [toList_related, htext]
    exact .written hpath.named.balanced (.relationship _) emptyBrackets_nil
  | values => cases hbare
  | @subquery path op clauses hpath hnames hfilters ih =>
    cases hbare with
    | @subquery _ _ _ e he hbare =>
      have hbalanced : ∀ e ∈ live clauses.filters, Balanced e.text.toList := fun e he => (hfilters e he).balanced
      have hcondition : EmptyBrackets clauses.predicate.text.toList := by
        rw [Clauses.predicate, text_all]
        exact emptyBrackets_group .and hbalanced he (ih e he hbare)
      have hpredicate : Balanced clauses.predicate.text.toList := by
        rw [Clauses.predicate, text_all]
        exact balanced_group .and hbalanced
      rw [toList_member, Members.text, Clauses.text_eq_parts]
      exact .written hpath.named.balanced (.inclusion op) (hnames.emptyBrackets hpredicate hcondition true).brackets
  | group c hterms ih =>
    obtain ⟨t, ht, hbare⟩ := (hasBareRelation_ofConnective c).1 hbare
    exact emptyBrackets_group c (fun t ht => (hterms t ht).balanced) ht (ih t ht hbare)
  | @not t _ _ ih =>
    have hnot : Balanced (negationKeyword.toList ++ [' ']) := balanced_of_all (by decide)
    rw [toList_not, List.append_cons]
    cases hbare with
    | not hbare =>
      split
      · exact .append_right hnot (ih hbare).brackets
      · exact .append_right hnot (ih hbare)
  | raw => cases hbare

/-- **A live expression of the grammar's names, patterns and texts is written as a sentence just if every relation in it
has something in its brackets.** -/
theorem Speakable.grammatical_iff (h : Speakable e) (hlive : e.isEmpty = false) :
    Grammatical .sentence e.text.toList ↔ ¬ HasBareRelation e :=
  ⟨fun hsentence hbare => hsentence.not_emptyBrackets (h.emptyBrackets hbare),
    fun hfull => (h.wellWritten hlive hfull).sentence⟩

end Expr

/-! ## What criteria leave -/

namespace Criterion

variable {item : Criterion} {items : List Criterion} {es : List Expr}

theorem isEmpty_of_equality {pair : String × Operand} {e : Expr} (h : equality pair = .ok e) : e.isEmpty = false := by
  obtain ⟨key, operand⟩ := pair
  cases operand with
  | subquery clauses => cases h
  | value v =>
    cases h
    cases v <;> rfl

theorem live_eq_nil_iff_isIdle (h : item.expand = .ok es) : live es = [] ↔ item.IsIdle := by
  refine ⟨fun hnone => ?_, fun hidle => ?_⟩
  · cases item with
    | expr e =>
      cases h
      exact .expr (by simpa [live_cons] using hnone)
    | raw text =>
      cases h
      refine .raw (by_contra fun hvisible => ?_)
      rw [live_cons, isEmpty, if_neg hvisible] at hnone
      cases hnone
    | skip => exact .skip
    | entity e => cases h
    | field key operand =>
      obtain ⟨e, he, rfl⟩ := exists_of_map_eq_ok h
      rw [live_cons, isEmpty_of_equality he] at hnone
      cases hnone
    | fields pairs =>
      -- an equality is never empty, so there are none
      have hlive : ∀ e ∈ es, e.isEmpty = false := fun e he => by
        obtain ⟨pair, -, hpair⟩ := exists_mem_of_mapM h e he
        exact isEmpty_of_equality hpair
      rw [live_eq_self hlive] at hnone
      have hlength : pairs.length = es.length := (forall₂_of_mapM h).length_eq
      rw [hnone, List.length_nil, List.length_eq_zero_iff] at hlength
      rw [hlength]
      exact .fields
  · obtain ⟨ts, hexpand, hnone⟩ := hidle.expand_eq
    rw [hexpand] at h
    cases h
    exact hnone

theorem live_exprs_eq_nil_iff (h : exprs items = .ok es) : live es = [] ↔ ∀ item ∈ items, item.IsIdle := by
  induction items generalizing es with
  | nil =>
    cases h
    simp
  | cons item items ih =>
    rw [exprs_cons] at h
    cases hitem : item.expand with
    | error err =>
      rw [hitem] at h
      cases h
    | ok ts =>
      cases hitems : exprs items with
      | error err =>
        rw [hitem, hitems] at h
        cases h
      | ok us =>
        rw [hitem, hitems] at h
        cases h
        rw [live_append, List.append_eq_nil_iff, live_eq_nil_iff_isIdle hitem, ih hitems, List.forall_mem_cons]

end Criterion

open Criterion

/-- **A relation nests a condition if some criterion places a constraint**, and otherwise its brackets are empty. Between
the brackets stands the conjunction of what the criteria stand for. If the names, patterns and query texts of those are
in the grammar, it is a sentence of the grammar just if there is such a criterion and none with an empty condition in the
brackets of a relation of its own. -/
theorem relations_nest_conditions {path : Path} {op : Relationship} {items : List Criterion} {e : Expr}
    (h : path.relate op items = .ok e) :
    ∃ es, exprs items = .ok es ∧ e = .related path op (all es) ∧
      e.text.toList =
        path.toText.toList ++ ' ' :: (op.keyword.toList ++ ' ' :: '(' :: ((all es).text.toList ++ [')'])) ∧
      ((all es).text = "" ↔ ∀ item ∈ items, item.IsIdle) ∧
      ((∀ t ∈ live es, Speakable t) → (Grammatical .sentence (all es).text.toList ↔
        (∃ item ∈ items, ¬ item.IsIdle) ∧ ∀ t ∈ live es, ¬ t.HasBareRelation)) := by
  obtain ⟨condition, hcondition, rfl⟩ := exists_of_map_eq_ok h
  obtain ⟨es, hes, rfl⟩ := exists_of_map_eq_ok hcondition
  have hidle : (all es).text = "" ↔ ∀ item ∈ items, item.IsIdle :=
    text_all_eq_empty_iff.trans (live_exprs_eq_nil_iff hes)
  refine ⟨es, hes, rfl, toList_related path op (all es), hidle, fun hspeakable => ?_⟩
  have hsome : (∃ item ∈ items, ¬ item.IsIdle) ↔ live es ≠ [] := by
    rw [ne_eq, live_exprs_eq_nil_iff hes]
    push Not
    rfl
  rw [hsome]
  by_cases hlive : live es = []
  · rw [text_all_eq_empty_iff.2 hlive]
    exact ⟨fun hsentence => absurd rfl hsentence.ne_nil, fun h => absurd hlive h.1⟩
  · have hgroup : Speakable (and es) := .group .and hspeakable
    rw [text_all, hgroup.grammatical_iff ((isEmpty_ofConnective_eq_false_iff .and).2 hlive),
      ← ofConnective, hasBareRelation_ofConnective .and]
    push Not
    exact ⟨fun hfull => ⟨hlive, hfull⟩, fun h => h.2⟩

/-- Among criteria that are left out, query text with a connective of its own and an equality. -/
theorem condition_of_remaining_criteria :
    let items : List Criterion :=
      [.skip, .raw " ", .raw "b is 2 or c is 3", .field "state" (.value (.text "done"))]
    ∃ e, Path.relate ⟨["parent"]⟩ .has items = .ok e ∧
      e.text = "parent has ((b is 2 or c is 3) and state is \"done\")" ∧
      Grammatical .sentence "(b is 2 or c is 3) and state is \"done\"".toList := by
  intro items
  have hsubject : ∀ name ∈ ["b", "c", "state"], Path.IsSubject ⟨[name]⟩ := by
    have hname : ∀ name ∈ ["b", "c", "state"], IsSegment name ∧ name.toList ∉ reservedWords := by
      decide
    intro name hmem
    obtain ⟨hsegment, hfree⟩ := hname name hmem
    refine ⟨fun s hs => ?_, List.cons_ne_nil _ _, ?_⟩
    · rwa [List.mem_singleton.1 hs]
    · simpa [Path.toText] using hfree
  have hnumber (name : String) (hname : name ∈ ["b", "c", "state"]) (n : Nat) :
      Grammatical .term ((Path.mk [name]).toText.toList ++ ' ' :: ("is".toList ++ ' ' :: Nat.toDigits 10 n)) :=
    .comparison .equal (hsubject name hname) (.number (isNumeral_toDigits n))
  have hraw : Speakable (Expr.raw "b is 2 or c is 3") :=
    .raw (.join .or (.term (hnumber "b" (by simp) 2)) (hnumber "c" (by simp) 3))
  have hequality : Speakable (compare ⟨["state"]⟩ .equal (.text "done")) :=
    .compare (hsubject "state" (by simp)) fun hpattern => absurd hpattern (by decide)
  have hsucceeds : Path.relate ⟨["parent"]⟩ .has items = .ok (related ⟨["parent"]⟩ .has
      (all [Expr.raw " ", Expr.raw "b is 2 or c is 3", compare ⟨["state"]⟩ .equal (.text "done")])) := rfl
  obtain ⟨es, hes, -, -, -, hsentence⟩ := relations_nest_conditions hsucceeds
  cases hes
  have hterms : ∀ t ∈ [Expr.raw "b is 2 or c is 3", compare ⟨["state"]⟩ .equal (.text "done")],
      Speakable t ∧ ¬ t.HasBareRelation := by
    rw [List.forall_mem_cons, List.forall_mem_singleton]
    exact ⟨⟨hraw, fun hbare => by cases hbare⟩, hequality, fun hbare => by cases hbare⟩
  have hsome : ¬ (Criterion.raw "b is 2 or c is 3").IsIdle := by
    intro hidle
    cases hidle with
    | raw hblank => exact absurd hblank (by decide)
  exact ⟨_, hsucceeds, by decide +kernel, (hsentence fun t ht => (hterms t ht).1).2
    ⟨⟨_, by simp [items], hsome⟩, fun t ht => (hterms t ht).2⟩⟩

/-- Without criteria, or with none that places a constraint, the brackets are empty, and nothing is no sentence. With such
a relation as the only criterion, there is something in the brackets, but no sentence either. -/
theorem absent_criteria_leave_empty_brackets :
    let bare : Expr := related ⟨["parent"]⟩ .has (all [])
    Path.relate ⟨["parent"]⟩ .has [] = .ok bare ∧ bare.text = "parent has ()" ∧ ¬ Grammatical .sentence [] ∧
    (∃ e, Path.relate ⟨["tasks"]⟩ .any [.skip, .raw " ", .expr (all [])] = .ok e ∧ e.text = "tasks any ()") ∧
    (∃ e, Path.relate ⟨["tasks"]⟩ .any [.expr bare] = .ok e ∧ e.text = "tasks any (parent has ())") ∧
      ¬ Grammatical .sentence bare.text.toList := by
  have hbrackets : EmptyBrackets "parent has ()".toList := ⟨"parent has ".toList, [], 0, rfl, rfl⟩
  have hinner : ¬ Grammatical .sentence "parent has ()".toList := fun h => h.not_emptyBrackets hbrackets
  exact ⟨rfl, by decide +kernel, fun h => h.ne_nil rfl, ⟨_, rfl, by decide +kernel⟩, ⟨_, rfl, by decide +kernel⟩, hinner⟩

end EntityQuery
