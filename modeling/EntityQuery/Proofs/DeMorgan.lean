import EntityQuery.Proofs.NormalForm
import EntityQuery.Proofs.Rendering

/-!
# De Morgan's laws in normal form

A group that is denied as a whole and the other group of its denied terms have one normal form, provided that a
negation among the terms never stands over an empty expression. The two ways differ in when empty terms are dropped and
single ones unwrapped: before the terms are denied or after it. A term and its inverse are empty together
(`NegationsLive.isEmpty_negate`), so the same terms are dropped either way (`normalForm_negate_group`).

Where every term is empty, the two ends are the empty conjunction and the empty disjunction, and neither has a text
(`de_morgan_on_texts`).
-/

namespace EntityQuery

def Connective.dual : Connective → Connective
  | and => or
  | or => and

namespace Expr

variable {t : Expr} {ts : List Expr}

/-! ## Terms and their inverses -/

theorem NegationsLive.of_not (h : NegationsLive (Expr.not t)) : t.isEmpty = false := by
  cases h with
  | leaf hleaf => cases hleaf
  | not hlive => exact hlive

theorem NegationsLive.isEmpty_negate (h : NegationsLive t) : t.negate.isEmpty = t.isEmpty := by
  by_cases hnot : ∃ u, t = Expr.not u
  · obtain ⟨u, rfl⟩ := hnot
    exact h.of_not
  · push Not at hnot
    cases hempty : t.isEmpty with
    | false =>
      rw [negate_of_live hempty hnot]
      rfl
    | true => rw [negate_of_isEmpty hempty, hempty]

theorem live_map_negate (h : ∀ t ∈ ts, NegationsLive t) : live (ts.map negate) = (live ts).map negate :=
  live_map fun t ht => (h t ht).isEmpty_negate

/-! ## Denied groups -/

theorem normalForm_not_ofConnective (c : Connective) (ts : List Expr) :
    (not (ofConnective c ts)).normalForm = group c.dual (ts.map fun t => t.negate.normalForm) := by
  cases c with
  | and => exact normalForm_not_and ts
  | or => exact normalForm_not_or ts

/-- A group that has terms, denied, and the dual group of its denied terms have one normal form. -/
theorem normalForm_negate_group (c : Connective) (h : ∀ t ∈ ts, NegationsLive t) (hsome : live ts ≠ []) :
    (group c ts).negate.normalForm = (group c.dual (ts.map negate)).normalForm := by
  have hterms := live_map_negate h
  rcases live_cases ts with hnone | ⟨t, hone, -, -⟩ | hmany
  · exact absurd hnone hsome
  · rw [hone] at hterms
    rw [group_of_live_one c hone, group_of_live_one c.dual hterms]
  · have hmany' : 1 < (live (ts.map negate)).length := by rwa [hterms, List.length_map]
    have hlive : (ofConnective c (live ts)).isEmpty = false := by
      rwa [isEmpty_ofConnective_eq_false_iff, live_live]
    rw [group_of_many c hmany, negate_of_live hlive (ofConnective_ne_not c _), normalForm_not_ofConnective,
      group_of_many c.dual hmany', normalForm_ofConnective, hterms, List.map_map]
    rfl

theorem text_normalForm_of_live_nil (c : Connective) (hnone : live ts = []) :
    (group c ts).negate.normalForm.text = "" ∧ (group c ts).normalForm.text = "" := by
  have hempty : (ofConnective c []).isEmpty = true := isEmpty_ofConnective c []
  have hform : (ofConnective c []).normalForm.text = "" := by
    rw [normalForm_ofConnective, List.map_nil, text_group]
    rfl
  rw [group_of_live_nil c hnone, negate_of_isEmpty hempty]
  exact ⟨hform, hform⟩

theorem text_normalForm_negate_group (c : Connective) (h : ∀ t ∈ ts, NegationsLive t) :
    (group c ts).negate.normalForm.text = (group c.dual (ts.map negate)).normalForm.text := by
  by_cases hnone : live ts = []
  · have hnone' : live (ts.map negate) = [] := by
      rw [live_map_negate h, hnone]
      rfl
    rw [(text_normalForm_of_live_nil c hnone).1, (text_normalForm_of_live_nil c.dual hnone').2]
  · rw [normalForm_negate_group c h hnone]

/-! ## The main statement -/

/-- **De Morgan's laws hold for texts**, for any number of terms: a disjunction that is denied reads in normal form as
the conjunction of the denied terms does, and the other way round. -/
theorem de_morgan_on_texts (h : ∀ t ∈ ts, NegationsLive t) :
    (any ts).negate.normalForm.text = (all (ts.map negate)).normalForm.text ∧
    (all ts).negate.normalForm.text = (any (ts.map negate)).normalForm.text :=
  ⟨text_normalForm_negate_group .or h, text_normalForm_negate_group .and h⟩

/-- A blank term, a denied term and a group: the blank term is dropped and the denials are pushed down. -/
theorem de_morgan_on_blank_and_denied_terms :
    let terms := [raw " ", not (raw "a is 1"), and [raw "b is 2", or [], raw "c is 3"]]
    (∀ t ∈ terms, NegationsLive t) ∧
    (any terms).negate.normalForm.text = (all (terms.map negate)).normalForm.text ∧
    (any terms).negate.normalForm.text = "a is 1 and (not b is 2 or not c is 3)" ∧
    (all terms).negate.normalForm.text = (any (terms.map negate)).normalForm.text := by
  intro terms
  have hterms : ∀ t ∈ terms, NegationsLive t := by
    simp only [terms, List.forall_mem_cons]
    refine ⟨.leaf rfl, .not (by decide) (.leaf rfl), .and ?_, List.forall_mem_nil _⟩
    simp only [List.forall_mem_cons]
    exact ⟨.leaf rfl, .or (List.forall_mem_nil _), .leaf rfl, List.forall_mem_nil _⟩
  obtain ⟨hany, hall⟩ := de_morgan_on_texts hterms
  exact ⟨hterms, hany, rfl, hall⟩

end Expr

end EntityQuery
