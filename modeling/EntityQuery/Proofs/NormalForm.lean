import EntityQuery.Proofs.Meaning

/-!
# Negation normal form

`normalForm` and `denial` are followed at once along an expression whose negations all stand over live
expressions (`NegationsLive`). On such an expression neither of them changes what is empty, the first
keeps the meaning and the second turns it round (`normalForm_spec`), and both end in a tree of
`NormalShape`, in which groups are flattened of empty and lone terms and negations stand at leaves only.
A tree of that shape is its own normal form, so a second pass finds nothing to do.
-/

namespace EntityQuery.Expr

/-- Every negation outside the leaves stands over an expression that places a constraint. -/
inductive NegationsLive : Expr → Prop
  | leaf {e : Expr} : e.isLeaf = true → NegationsLive e
  | and {ts : List Expr} : (∀ t ∈ ts, NegationsLive t) → NegationsLive (and ts)
  | or {ts : List Expr} : (∀ t ∈ ts, NegationsLive t) → NegationsLive (or ts)
  | not {t : Expr} : t.isEmpty = false → NegationsLive t → NegationsLive (not t)

/-- Every negation outside the leaves stands directly over a leaf. -/
inductive NegationsAtLeaves : Expr → Prop
  | leaf {e : Expr} : e.isLeaf = true → NegationsAtLeaves e
  | and {ts : List Expr} : (∀ t ∈ ts, NegationsAtLeaves t) → NegationsAtLeaves (and ts)
  | or {ts : List Expr} : (∀ t ∈ ts, NegationsAtLeaves t) → NegationsAtLeaves (or ts)
  | not {t : Expr} : t.isLeaf = true → NegationsAtLeaves (not t)

/-- The shape of a normal form: leaves, negated leaves, and groups that hold live terms only and never a
single one. -/
inductive NormalShape : Expr → Prop
  | leaf {e : Expr} : e.isLeaf = true → NormalShape e
  | deniedLeaf {e : Expr} : e.isLeaf = true → NormalShape (not e)
  | group (c : Connective) {ts : List Expr} : (∀ t ∈ ts, t.isEmpty = false) → ts.length ≠ 1 →
      (∀ t ∈ ts, NormalShape t) → NormalShape (ofConnective c ts)

variable {leaf : Expr → Prop} {e : Expr} {ts : List Expr}

/-! ## The shape of the result -/

theorem NormalShape.of_group (c : Connective) (h : ∀ t ∈ ts, NormalShape t) :
    NormalShape (Expr.group c ts) :=
  group_induction c h fun _ => .group c

theorem group_eq_ofConnective (c : Connective) (hlive : ∀ t ∈ ts, t.isEmpty = false)
    (hlength : ts.length ≠ 1) : group c ts = ofConnective c ts := by
  rw [group, live_eq_self hlive]
  split
  · exact (hlength rfl).elim
  · rfl

theorem normalForm_of_isLeaf (h : e.isLeaf = true) : e.normalForm = e := by
  cases e with
  | and => cases h
  | or => cases h
  | not => cases h
  | _ => simp [normalForm]

theorem denial_of_isLeaf (h : e.isLeaf = true) : e.denial = not e := by
  cases e with
  | and => cases h
  | or => cases h
  | not => cases h
  | _ => simp [denial]

theorem normalForm_ofConnective (c : Connective) (ts : List Expr) :
    (ofConnective c ts).normalForm = group c (ts.map normalForm) := by
  cases c with
  | and => exact normalForm_and ts
  | or => exact normalForm_or ts

theorem NormalShape.normalForm_eq (h : NormalShape e) : e.normalForm = e := by
  induction h with
  | leaf hleaf => exact normalForm_of_isLeaf hleaf
  | deniedLeaf hleaf => rw [normalForm, denial_of_isLeaf hleaf]
  | @group c ts hlive hlength _ ih =>
    have hmap : ts.map normalForm = ts := by
      rw [List.map_congr_left ih, List.map_id']
    rw [normalForm_ofConnective, hmap, group_eq_ofConnective c hlive hlength]

theorem NormalShape.negationsAtLeaves (h : NormalShape e) : NegationsAtLeaves e := by
  induction h with
  | leaf hleaf => exact .leaf hleaf
  | deniedLeaf hleaf => exact .not hleaf
  | @group c ts _ _ _ ih =>
    cases c with
    | and => exact .and ih
    | or => exact .or ih

/-! ## One pass over the tree -/

/-- What the two functions do to an expression: neither changes whether it is empty, they keep and turn round its
meaning, and both give it normal shape. -/
structure NormalizesTo (e : Expr) : Prop where
  isEmpty_normalForm : e.normalForm.isEmpty = e.isEmpty
  isEmpty_denial : e.isEmpty = false → e.denial.isEmpty = false
  holds_normalForm (leaf : Expr → Prop) : e.normalForm.Holds leaf ↔ e.Holds leaf
  holds_denial (leaf : Expr → Prop) : e.isEmpty = false → (e.denial.Holds leaf ↔ ¬ e.Holds leaf)
  shape_normalForm : NormalShape e.normalForm
  shape_denial : NormalShape e.denial

def denialOrEmpty (t : Expr) : Expr := if t.isEmpty then t.normalForm else t.denial

theorem denials_eq_map_denialOrEmpty (ts : List Expr) : denials ts = ts.map denialOrEmpty := by
  induction ts with
  | nil => rfl
  | cons t ts ih => rw [denials, ih, List.map_cons, denialOrEmpty]

section terms

variable (h : ∀ t ∈ ts, NormalizesTo t)
include h

theorem live_map_normalForm : live (ts.map normalForm) = (live ts).map normalForm :=
  live_map fun t ht => (h t ht).isEmpty_normalForm

theorem live_denials : live (denials ts) = (live ts).map denial := by
  have hsame : ∀ t ∈ ts, (denialOrEmpty t).isEmpty = t.isEmpty := by
    intro t ht
    rw [denialOrEmpty]
    cases hempty : t.isEmpty with
    | true => simp [(h t ht).isEmpty_normalForm, hempty]
    | false => simp [(h t ht).isEmpty_denial hempty]
  rw [denials_eq_map_denialOrEmpty, live_map hsame]
  apply List.map_congr_left
  intro t ht
  rw [denialOrEmpty, (mem_live.1 ht).2]
  rfl

theorem allEmpty_denials : allEmpty (denials ts) = allEmpty ts := by
  rw [Bool.eq_iff_iff, ← live_eq_nil_iff, ← live_eq_nil_iff, live_denials h, List.map_eq_nil_iff]

theorem allEmpty_map_normalForm : allEmpty (ts.map normalForm) = allEmpty ts := by
  rw [Bool.eq_iff_iff, ← live_eq_nil_iff, ← live_eq_nil_iff, live_map_normalForm h,
    List.map_eq_nil_iff]

theorem shape_denials : ∀ t ∈ denials ts, NormalShape t := by
  rw [denials_eq_map_denialOrEmpty]
  intro u hu
  obtain ⟨t, ht, rfl⟩ := List.mem_map.1 hu
  rw [denialOrEmpty]
  split
  · exact (h t ht).shape_normalForm
  · exact (h t ht).shape_denial

theorem shape_map_normalForm : ∀ t ∈ ts.map normalForm, NormalShape t := by
  intro u hu
  obtain ⟨t, ht, rfl⟩ := List.mem_map.1 hu
  exact (h t ht).shape_normalForm

theorem holds_some_denial (leaf : Expr → Prop) :
    (∃ t ∈ (live ts).map denial, t.Holds leaf) ↔ ¬ ∀ t ∈ live ts, t.Holds leaf := by
  push Not
  constructor
  · rintro ⟨u, hu, hholds⟩
    obtain ⟨t, ht, rfl⟩ := List.mem_map.1 hu
    obtain ⟨hmem, hlive⟩ := mem_live.1 ht
    exact ⟨t, ht, ((h t hmem).holds_denial leaf hlive).1 hholds⟩
  · rintro ⟨t, ht, hfails⟩
    obtain ⟨hmem, hlive⟩ := mem_live.1 ht
    exact ⟨t.denial, List.mem_map_of_mem ht, ((h t hmem).holds_denial leaf hlive).2 hfails⟩

theorem holds_each_denial (leaf : Expr → Prop) :
    (∀ t ∈ (live ts).map denial, t.Holds leaf) ↔ ¬ ∃ t ∈ live ts, t.Holds leaf := by
  push Not
  constructor
  · intro hall t ht
    obtain ⟨hmem, hlive⟩ := mem_live.1 ht
    exact ((h t hmem).holds_denial leaf hlive).1 (hall _ (List.mem_map_of_mem ht))
  · intro hnone u hu
    obtain ⟨t, ht, rfl⟩ := List.mem_map.1 hu
    obtain ⟨hmem, hlive⟩ := mem_live.1 ht
    exact ((h t hmem).holds_denial leaf hlive).2 (hnone t ht)

theorem holds_each_normalForm (leaf : Expr → Prop) :
    (∀ t ∈ (live ts).map normalForm, t.Holds leaf) ↔ ∀ t ∈ live ts, t.Holds leaf := by
  rw [List.forall_mem_map]
  exact forall₂_congr fun t ht => (h t (mem_live.1 ht).1).holds_normalForm leaf

theorem holds_some_normalForm (leaf : Expr → Prop) :
    (∃ t ∈ (live ts).map normalForm, t.Holds leaf) ↔ ∃ t ∈ live ts, t.Holds leaf := by
  constructor
  · rintro ⟨u, hu, hholds⟩
    obtain ⟨t, ht, rfl⟩ := List.mem_map.1 hu
    exact ⟨t, ht, ((h t (mem_live.1 ht).1).holds_normalForm leaf).1 hholds⟩
  · rintro ⟨t, ht, hholds⟩
    exact ⟨t.normalForm, List.mem_map_of_mem ht, ((h t (mem_live.1 ht).1).holds_normalForm leaf).2 hholds⟩

end terms

theorem normalizesTo_leaf (h : e.isLeaf = true) : NormalizesTo e := by
  have hform := normalForm_of_isLeaf h
  have hdenial := denial_of_isLeaf h
  refine ⟨by rw [hform], fun _ => by rw [hdenial]; rfl, fun leaf => by rw [hform], fun leaf _ => ?_,
    by rw [hform]; exact .leaf h, by rw [hdenial]; exact .deniedLeaf h⟩
  rw [hdenial, holds_not]

theorem normalizesTo_and (h : ∀ t ∈ ts, NormalizesTo t) : NormalizesTo (and ts) where
  isEmpty_normalForm := by
    rw [normalForm_and, all, isEmpty_group, allEmpty_map_normalForm h, isEmpty]
  isEmpty_denial hlive := by
    rw [denial, any, isEmpty_group, allEmpty_denials h]
    exact hlive
  holds_normalForm leaf := by
    rw [normalForm_and, holds_all, live_map_normalForm h, holds_each_normalForm h, holds_and]
  holds_denial leaf hlive := by
    have hne : live (denials ts) ≠ [] := by
      rw [ne_eq, live_eq_nil_iff, allEmpty_denials h]
      simpa [isEmpty] using hlive
    rw [denial, holds_any, or_iff_right hne, live_denials h, holds_some_denial h, holds_and]
  shape_normalForm := by
    rw [normalForm_and]
    exact .of_group .and (shape_map_normalForm h)
  shape_denial := by
    rw [denial]
    exact .of_group .or (shape_denials h)

theorem normalizesTo_or (h : ∀ t ∈ ts, NormalizesTo t) : NormalizesTo (or ts) where
  isEmpty_normalForm := by
    rw [normalForm_or, any, isEmpty_group, allEmpty_map_normalForm h, isEmpty]
  isEmpty_denial hlive := by
    rw [denial, all, isEmpty_group, allEmpty_denials h]
    exact hlive
  holds_normalForm leaf := by
    rw [normalForm_or, holds_any, live_map_normalForm h, holds_some_normalForm h, holds_or,
      List.map_eq_nil_iff]
  holds_denial leaf hlive := by
    have hne : live ts ≠ [] := by
      rw [ne_eq, live_eq_nil_iff]
      simpa [isEmpty] using hlive
    rw [denial, holds_all, live_denials h, holds_each_denial h, holds_or, or_iff_right hne]
  shape_normalForm := by
    rw [normalForm_or]
    exact .of_group .or (shape_map_normalForm h)
  shape_denial := by
    rw [denial]
    exact .of_group .and (shape_denials h)

theorem normalizesTo_not (hlive : e.isEmpty = false) (h : NormalizesTo e) : NormalizesTo (not e) where
  isEmpty_normalForm := by
    rw [normalForm, h.isEmpty_denial hlive]
    rfl
  isEmpty_denial _ := by
    rw [denial, h.isEmpty_normalForm, hlive]
  holds_normalForm leaf := by
    rw [normalForm, h.holds_denial leaf hlive, holds_not]
  holds_denial leaf _ := by
    rw [denial, h.holds_normalForm leaf, holds_not, not_not]
  shape_normalForm := by
    rw [normalForm]
    exact h.shape_denial
  shape_denial := by
    rw [denial]
    exact h.shape_normalForm

theorem normalForm_spec (h : NegationsLive e) : NormalizesTo e := by
  induction h with
  | leaf hleaf => exact normalizesTo_leaf hleaf
  | and _ ih => exact normalizesTo_and ih
  | or _ ih => exact normalizesTo_or ih
  | not hlive _ ih => exact normalizesTo_not hlive ih

/-! ## The main statement -/

/-- **The normal form means the same, has its negations at the leaves and is stable.** The normal form of the
inverse means the opposite. -/
theorem normalForm_keeps_meaning_and_is_stable (h : NegationsLive e) :
    (∀ leaf, e.normalForm.Holds leaf ↔ e.Holds leaf) ∧
    (e.isEmpty = false → ∀ leaf, e.negate.normalForm.Holds leaf ↔ ¬ e.Holds leaf) ∧
    NegationsAtLeaves e.normalForm ∧
    e.normalForm.normalForm = e.normalForm := by
  have hspec := normalForm_spec h
  refine ⟨hspec.holds_normalForm, ?_, hspec.shape_normalForm.negationsAtLeaves,
    hspec.shape_normalForm.normalForm_eq⟩
  intro hlive leaf
  rw [normalForm_negate, hlive]
  exact hspec.holds_denial leaf hlive

/-- A denied conjunction with a blank term and a denied term: the blank term is dropped and the negations change
places. -/
theorem normalForm_of_denied_conjunction :
    NegationsLive (not (and [raw "a is 1", raw " ", not (raw "b is 2")])) ∧
    (not (and [raw "a is 1", raw " ", not (raw "b is 2")])).normalForm =
      or [not (raw "a is 1"), raw "b is 2"] ∧
    ∀ leaf, (or [not (raw "a is 1"), raw "b is 2"]).Holds leaf ↔
      (not (and [raw "a is 1", raw " ", not (raw "b is 2")])).Holds leaf := by
  have hnegations : NegationsLive (not (and [raw "a is 1", raw " ", not (raw "b is 2")])) := by
    refine .not (by decide) (.and ?_)
    simp only [List.forall_mem_cons]
    exact ⟨.leaf rfl, .leaf rfl, .not (by decide) (.leaf rfl), List.forall_mem_nil _⟩
  exact ⟨hnegations, rfl, (normalForm_keeps_meaning_and_is_stable hnegations).1⟩

end EntityQuery.Expr
