import EntityQuery.Criterion
import EntityQuery.Proofs.NormalForm

/-!
# What the builder functions make

`Built` holds of the expressions that come from given leaves by any use of `all`, `any`, `negate`, the
combinators over criteria and `normalForm`. They all are `Canonical`: a group has live terms only and
never a single one, and a negation stands over a live expression that is no negation. The text of an expression is
right for canonical trees, not for every tree (a group of one conjunction, put into a disjunction by hand, would lose its
brackets), so what is said about texts of built expressions goes through `Built.canonical`.
-/

namespace EntityQuery

theorem exists_of_map_eq_ok {α β ε : Type} {x : Except ε α} {f : α → β} {y : β} (h : x.map f = .ok y) :
    ∃ a, x = .ok a ∧ f a = y := by
  cases x with
  | error err => cases h
  | ok a => exact ⟨a, rfl, Except.ok.inj h⟩

theorem forall₂_of_mapM {α β ε : Type} {f : α → Except ε β} {xs : List α} {ys : List β} (h : xs.mapM f = .ok ys) :
    List.Forall₂ (fun x y => f x = .ok y) xs ys := by
  induction xs generalizing ys with
  | nil =>
    cases h
    exact .nil
  | cons x xs ih =>
    rw [List.mapM_cons] at h
    cases hx : f x with
    | error err =>
      rw [hx] at h
      cases h
    | ok z =>
      cases hxs : xs.mapM f with
      | error err =>
        rw [hx, hxs] at h
        cases h
      | ok zs =>
        rw [hx, hxs] at h
        cases h
        exact .cons hx (ih hxs)

theorem exists_mem_of_mapM {α β ε : Type} {f : α → Except ε β} {xs : List α} {ys : List β}
    (h : xs.mapM f = .ok ys) : ∀ y ∈ ys, ∃ x ∈ xs, f x = .ok y := by
  have hpairs := forall₂_of_mapM h
  clear h
  induction hpairs with
  | nil => exact List.forall_mem_nil _
  | cons hxy _ ih =>
    rw [List.forall_mem_cons]
    refine ⟨⟨_, List.mem_cons_self, hxy⟩, fun y hy => ?_⟩
    obtain ⟨x, hx, hxy⟩ := ih y hy
    exact ⟨x, List.mem_cons_of_mem _ hx, hxy⟩

namespace Expr

/-- The expressions that the builder functions make from such leaves. -/
inductive Built (leaf : Expr → Prop) : Expr → Prop
  | leaf {e : Expr} : e.isLeaf = true → leaf e → Built leaf e
  | all {ts : List Expr} : (∀ t ∈ ts, Built leaf t) → Built leaf (all ts)
  | any {ts : List Expr} : (∀ t ∈ ts, Built leaf t) → Built leaf (any ts)
  | negate {e : Expr} : Built leaf e → Built leaf e.negate
  | normalForm {e : Expr} : Built leaf e → Built leaf e.normalForm
  | allOf {items : List Criterion} {ts : List Expr} {e : Expr} : Criterion.exprs items = .ok ts →
      (∀ t ∈ ts, Built leaf t) → allOf items = .ok e → Built leaf e
  | anyOf {items : List Criterion} {ts : List Expr} {e : Expr} : Criterion.exprs items = .ok ts →
      (∀ t ∈ ts, Built leaf t) → anyOf items = .ok e → Built leaf e
  | noneOf {items : List Criterion} {ts : List Expr} {e : Expr} : Criterion.exprs items = .ok ts →
      (∀ t ∈ ts, Built leaf t) → noneOf items = .ok e → Built leaf e

/-- No group has an empty term or a single one, and no negation stands over an empty expression or a negation. -/
inductive Canonical (leaf : Expr → Prop) : Expr → Prop
  | leaf {e : Expr} : e.isLeaf = true → leaf e → Canonical leaf e
  | group (c : Connective) {ts : List Expr} : (∀ t ∈ ts, t.isEmpty = false) → ts.length ≠ 1 →
      (∀ t ∈ ts, Canonical leaf t) → Canonical leaf (ofConnective c ts)
  | not {t : Expr} : t.isEmpty = false → (∀ u, t ≠ not u) → Canonical leaf t → Canonical leaf (not t)

variable {leaf : Expr → Prop} {e : Expr} {ts : List Expr}

theorem Canonical.of_group (c : Connective) (h : ∀ t ∈ ts, Canonical leaf t) :
    Canonical leaf (Expr.group c ts) :=
  group_induction c h fun _ => .group c

theorem Canonical.of_not {t : Expr} (h : Canonical leaf e) (he : e = Expr.not t) :
    t.isEmpty = false ∧ Canonical leaf t := by
  cases h with
  | leaf hleaf =>
    subst he
    cases hleaf
  | group c => cases c <;> cases he
  | not hlive _ ht =>
    cases he
    exact ⟨hlive, ht⟩

theorem Canonical.negate (h : Canonical leaf e) : Canonical leaf e.negate := by
  by_cases hnot : ∃ t, e = Expr.not t
  · obtain ⟨t, rfl⟩ := hnot
    exact (h.of_not rfl).2
  · push Not at hnot
    cases hempty : e.isEmpty with
    | false =>
      rw [negate_of_live hempty hnot]
      exact .not hempty hnot h
    | true => rwa [negate_of_isEmpty hempty]

theorem Canonical.normalForm_denial (h : Canonical leaf e) :
    Canonical leaf e.normalForm ∧ (e.isEmpty = false → Canonical leaf e.denial) := by
  induction h with
  | @leaf e hleaf hok =>
    rw [normalForm_of_isLeaf hleaf, denial_of_isLeaf hleaf]
    refine ⟨.leaf hleaf hok, fun hlive => .not hlive ?_ (.leaf hleaf hok)⟩
    rintro t rfl
    cases hleaf
  | @group c ts hlive _ _ ih =>
    have hforms : ∀ t ∈ ts.map Expr.normalForm, Canonical leaf t := by
      intro u hu
      obtain ⟨t, ht, rfl⟩ := List.mem_map.1 hu
      exact (ih t ht).1
    have hdenials : ∀ t ∈ denials ts, Canonical leaf t := by
      rw [denials_eq_map_denialOrEmpty]
      intro u hu
      obtain ⟨t, ht, rfl⟩ := List.mem_map.1 hu
      rw [denialOrEmpty, hlive t ht]
      exact (ih t ht).2 (hlive t ht)
    refine ⟨normalForm_ofConnective c ts ▸ .of_group c hforms, fun _ => ?_⟩
    cases c with
    | and =>
      rw [ofConnective, denial]
      exact .of_group .or hdenials
    | or =>
      rw [ofConnective, denial]
      exact .of_group .and hdenials
  | @not t hlive _ _ ih =>
    rw [Expr.normalForm, denial]
    exact ⟨ih.2 hlive, fun _ => ih.1⟩

/-- **The builder functions make canonical trees.** -/
theorem Built.canonical (h : Built leaf e) : Canonical leaf e := by
  induction h with
  | leaf hleaf hok => exact .leaf hleaf hok
  | all _ ih => exact .of_group .and ih
  | any _ ih => exact .of_group .or ih
  | negate _ ih => exact ih.negate
  | normalForm _ ih => exact ih.normalForm_denial.1
  | allOf hexprs _ he ih =>
    rw [Expr.allOf, hexprs] at he
    cases he
    exact .of_group .and ih
  | anyOf hexprs _ he ih =>
    rw [Expr.anyOf, hexprs] at he
    cases he
    exact .of_group .or ih
  | noneOf hexprs _ he ih =>
    rw [Expr.noneOf, Expr.anyOf, hexprs] at he
    cases he
    exact (Canonical.of_group .or ih).negate

end Expr

end EntityQuery
