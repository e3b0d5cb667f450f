import EntityQuery.Expr.NormalForm
import Mathlib.Tactic.Common

/-!
# What an expression means

`Expr.Holds` gives an expression its truth value once it is known which of its leaves hold. Empty terms
of a group are passed over, and a group that has no other terms places no constraint. Everything the
rest says about meaning goes through `holds_and`, `holds_or`, `holds_not` and, for the builder
functions, `holds_all` and `holds_any`.
-/

namespace EntityQuery.Expr

/-- The expressions that are no group and no negation. What stands inside a leaf, such as the condition of
a relation, is its own affair. -/
def isLeaf : Expr → Bool
  | and _ => false
  | or _ => false
  | not _ => false
  | _ => true

mutual

/-- Whether the expression holds when exactly the given leaves hold. -/
def Holds (leaf : Expr → Prop) : Expr → Prop
  | and terms => HoldsEach leaf terms
  | or terms => allEmpty terms = true ∨ HoldsSome leaf terms
  | not t => ¬ Holds leaf t
  | e => leaf e

def HoldsEach (leaf : Expr → Prop) : List Expr → Prop
  | [] => True
  | t :: ts => (t.isEmpty = false → Holds leaf t) ∧ HoldsEach leaf ts

def HoldsSome (leaf : Expr → Prop) : List Expr → Prop
  | [] => False
  | t :: ts => (t.isEmpty = false ∧ Holds leaf t) ∨ HoldsSome leaf ts

end

variable {leaf : Expr → Prop} {e t : Expr} {ts : List Expr}

/-! ## Live terms -/

theorem mem_live : t ∈ live ts ↔ t ∈ ts ∧ t.isEmpty = false := by
  simp [live]

theorem live_eq_self (h : ∀ t ∈ ts, t.isEmpty = false) : live ts = ts := by
  rw [live, List.filter_eq_self]
  intro t ht
  simp [h t ht]

theorem live_map {f : Expr → Expr} (h : ∀ t ∈ ts, (f t).isEmpty = t.isEmpty) :
    live (ts.map f) = (live ts).map f := by
  rw [live, live, List.filter_map]
  congr 1
  apply List.filter_congr
  intro t ht
  simp [h t ht]

theorem live_cases (ts : List Expr) :
    live ts = [] ∨ (∃ t, live ts = [t] ∧ t ∈ ts ∧ t.isEmpty = false) ∨ 1 < (live ts).length := by
  match hcase : live ts with
  | [] => exact .inl rfl
  | [t] => exact .inr (.inl ⟨t, rfl, mem_live.1 (by simp [hcase])⟩)
  | t :: u :: us => exact .inr (.inr (by simp))

theorem exists_two_live (hmany : 1 < (live ts).length) : ∃ t u us, live ts = t :: u :: us := by
  match hcase : live ts with
  | [] => simp [hcase] at hmany
  | [_] => simp [hcase] at hmany
  | t :: u :: us => exact ⟨t, u, us, rfl⟩

theorem isEmpty_ofConnective_eq_false_iff (c : Connective) : (ofConnective c ts).isEmpty = false ↔ live ts ≠ [] := by
  rw [isEmpty_ofConnective, Bool.eq_false_iff, ne_eq, ne_eq, live_eq_nil_iff]

theorem isEmpty_group_eq_false_iff (c : Connective) : (group c ts).isEmpty = false ↔ live ts ≠ [] := by
  rw [isEmpty_group, ← isEmpty_ofConnective c, isEmpty_ofConnective_eq_false_iff]

theorem ofConnective_ne_not (c : Connective) (ts : List Expr) : ∀ u, ofConnective c ts ≠ not u := by
  intro u
  cases c <;> exact Expr.noConfusion

theorem group_of_live_nil (c : Connective) (hnone : live ts = []) : group c ts = ofConnective c [] := by
  rw [group, hnone]

theorem group_of_live_one (c : Connective) (hone : live ts = [t]) : group c ts = t := by
  rw [group, hone]

theorem group_of_many (c : Connective) (hmany : 1 < (live ts).length) : group c ts = ofConnective c (live ts) := by
  rw [group]
  split
  next t hone => simp [hone] at hmany
  · rfl

/-- What holds of the terms, and of groups of such terms that are live and not a single one, holds of the terms grouped. -/
theorem group_induction {P : Expr → Prop} (c : Connective) (h : ∀ t ∈ ts, P t)
    (hgroup : ∀ us, (∀ u ∈ us, u.isEmpty = false) → us.length ≠ 1 → (∀ u ∈ us, P u) → P (ofConnective c us)) :
    P (group c ts) := by
  have hlive : ∀ t ∈ live ts, P t := fun t ht => h t (mem_live.1 ht).1
  rw [group]
  split
  next t hone =>
    apply hlive
    simp [hone]
  next hmany =>
    refine hgroup _ (fun t ht => (mem_live.1 ht).2) ?_ hlive
    intro hlength
    obtain ⟨t, ht⟩ := List.length_eq_one_iff.1 hlength
    exact hmany t ht

/-! ## Groups and negations -/

theorem holdsEach_iff : HoldsEach leaf ts ↔ ∀ t ∈ live ts, Holds leaf t := by
  induction ts with
  | nil => simp [HoldsEach]
  | cons t ts ih =>
    rw [HoldsEach, ih, live_cons]
    cases t.isEmpty <;> simp

theorem holdsSome_iff : HoldsSome leaf ts ↔ ∃ t ∈ live ts, Holds leaf t := by
  induction ts with
  | nil => simp [HoldsSome]
  | cons t ts ih =>
    rw [HoldsSome, ih, live_cons]
    cases t.isEmpty <;> simp

theorem holds_and : (and ts).Holds leaf ↔ ∀ t ∈ live ts, t.Holds leaf := by
  rw [Holds, holdsEach_iff]

theorem holds_or : (or ts).Holds leaf ↔ live ts = [] ∨ ∃ t ∈ live ts, t.Holds leaf := by
  rw [Holds, holdsSome_iff, live_eq_nil_iff]

theorem holds_not : (not t).Holds leaf ↔ ¬ t.Holds leaf := by
  rw [Holds]

theorem holds_of_isLeaf (h : e.isLeaf = true) : e.Holds leaf ↔ leaf e := by
  cases e with
  | and => cases h
  | or => cases h
  | not => cases h
  | _ => simp [Holds]

/-! ## The builder functions -/

theorem holds_all : (all ts).Holds leaf ↔ ∀ t ∈ live ts, t.Holds leaf := by
  rw [all, group]
  split
  next t h => simp [h]
  · rw [ofConnective, holds_and, live_live]

theorem holds_any : (any ts).Holds leaf ↔ live ts = [] ∨ ∃ t ∈ live ts, t.Holds leaf := by
  rw [any, group]
  split
  next t h => simp [h]
  · rw [ofConnective, holds_or, live_live]

end EntityQuery.Expr
