import EntityQuery.Proofs.Built
import EntityQuery.Statement.Select

/-!
# Trees that the builder functions keep canonical

`CanonicalThroughout` is `Canonical` all the way down: it holds of the conditions of relations too. It is
`Canonical` over leaves with such conditions (`canonicalThroughout_iff`), so what is known of the groups,
negations and normal forms of canonical trees carries over. What the rest adds is that criteria, relations
and the conditions which a statement stores are made of nothing else (`builder_functions_keep_trees_canonical`).

On canonical trees `negate` is its own inverse (`Canonical.negate_negate`). It is not on every tree: of a negation over
an empty expression or over another negation it takes the outer one away and does not put it back.
-/

namespace EntityQuery

namespace Expr

/-- No group has an empty term or a single one, and no negation stands over an empty expression or a
negation, also in the condition of a relation. -/
inductive CanonicalThroughout : Expr → Prop
  | compare (path : Path) (op : Comparison) (value : Value) : CanonicalThroughout (compare path op value)
  | related (path : Path) (op : Relationship) {condition : Expr} : CanonicalThroughout condition →
      CanonicalThroughout (related path op condition)
  | member (path : Path) (op : Inclusion) (members : Members) : CanonicalThroughout (member path op members)
  | raw (text : String) : CanonicalThroughout (raw text)
  | group (c : Connective) {ts : List Expr} : (∀ t ∈ ts, t.isEmpty = false) → ts.length ≠ 1 →
      (∀ t ∈ ts, CanonicalThroughout t) → CanonicalThroughout (ofConnective c ts)
  | not {t : Expr} : t.isEmpty = false → (∀ u, t ≠ not u) → CanonicalThroughout t →
      CanonicalThroughout (not t)

def HasCanonicalCondition (e : Expr) : Prop :=
  ∀ path op condition, e = related path op condition → condition.CanonicalThroughout

variable {leaf : Expr → Prop} {e : Expr} {ts : List Expr}

theorem canonicalThroughout_iff : e.CanonicalThroughout ↔ Canonical HasCanonicalCondition e := by
  constructor
  · intro h
    induction h with
    | compare path op value => exact .leaf rfl (by rintro _ _ _ ⟨⟩)
    | related path op hcondition _ =>
      refine .leaf rfl ?_
      rintro _ _ _ ⟨⟩
      exact hcondition
    | member path op members => exact .leaf rfl (by rintro _ _ _ ⟨⟩)
    | raw text => exact .leaf rfl (by rintro _ _ _ ⟨⟩)
    | group c hlive hlength _ ih => exact .group c hlive hlength ih
    | not hlive hnot _ ih => exact .not hlive hnot ih
  · intro h
    induction h with
    -- a leaf may be a relation, and then its condition is canonical itself
    | @leaf e hleaf hcondition =>
      cases e with
      | compare path op value => exact .compare path op value
      | related path op condition => exact .related path op (hcondition path op condition rfl)
      | member path op members => exact .member path op members
      | raw text => exact .raw text
      | and => cases hleaf
      | or => cases hleaf
      | not => cases hleaf
    | group c hlive hlength _ ih => exact .group c hlive hlength ih
    | not hlive hnot _ ih => exact .not hlive hnot ih

theorem Canonical.negate_negate (h : Canonical leaf e) : e.negate.negate = e := by
  have hother (hnot : ∀ t, e ≠ Expr.not t) : e.negate.negate = e := by
    cases hempty : e.isEmpty with
    | true => rw [negate_of_isEmpty hempty, negate_of_isEmpty hempty]
    | false =>
      rw [negate_of_live hempty hnot]
      rfl
  cases h with
  | leaf hleaf => exact hother (by rintro t rfl; cases hleaf)
  | group c => exact hother (by rintro t heq; cases c <;> cases heq)
  | @not t hlive hnot => exact negate_of_live hlive hnot

namespace CanonicalThroughout

theorem of_group (c : Connective) (h : ∀ t ∈ ts, t.CanonicalThroughout) : (Expr.group c ts).CanonicalThroughout :=
  canonicalThroughout_iff.2 (.of_group c fun t ht => canonicalThroughout_iff.1 (h t ht))

theorem negate (h : e.CanonicalThroughout) : e.negate.CanonicalThroughout :=
  canonicalThroughout_iff.2 (canonicalThroughout_iff.1 h).negate

theorem normalForm (h : e.CanonicalThroughout) : e.normalForm.CanonicalThroughout :=
  canonicalThroughout_iff.2 (canonicalThroughout_iff.1 h).normalForm_denial.1

end CanonicalThroughout

theorem canonicalThroughout_is (path : Path) (value : Value) : (path.is value).CanonicalThroughout := by
  cases value with
  | entity reference => exact .compare _ _ _
  | _ => exact .compare _ _ _

end Expr

open EntityQuery.Expr

/-! ## Criteria -/

namespace Criterion

def IsCanonical (item : Criterion) : Prop := ∀ e, item = expr e → e.CanonicalThroughout

variable {items : List Criterion} {es : List Expr}

theorem canonicalThroughout_equality {pair : String × Operand} {e : Expr} (h : equality pair = .ok e) :
    e.CanonicalThroughout := by
  obtain ⟨key, operand⟩ := pair
  cases operand with
  | value v =>
    cases h
    exact canonicalThroughout_is _ v
  | subquery clauses => cases h

theorem canonicalThroughout_expand {item : Criterion} (hitem : item.IsCanonical) (h : item.expand = .ok es) :
    ∀ e ∈ es, e.CanonicalThroughout := by
  cases item with
  | expr e =>
    cases h
    exact List.forall_mem_singleton.2 (hitem e rfl)
  | raw text =>
    cases h
    exact List.forall_mem_singleton.2 (.raw text)
  | field key operand =>
    rw [expand] at h
    cases heq : equality (key, operand) with
    | error err =>
      rw [heq] at h
      cases h
    | ok e =>
      rw [heq] at h
      cases h
      exact List.forall_mem_singleton.2 (canonicalThroughout_equality heq)
  | fields pairs =>
    intro e he
    obtain ⟨pair, -, hpair⟩ := exists_mem_of_mapM h e he
    exact canonicalThroughout_equality hpair
  | entity reference => cases h
  | skip =>
    cases h
    exact List.forall_mem_nil _

theorem canonicalThroughout_exprs (hitems : ∀ item ∈ items, item.IsCanonical) (h : exprs items = .ok es) :
    ∀ e ∈ es, e.CanonicalThroughout := by
  obtain ⟨groups, hgroups, rfl⟩ := exists_of_map_eq_ok h
  intro e he
  obtain ⟨group, hgroup, he⟩ := List.mem_flatten.1 he
  obtain ⟨item, hitem, hexpand⟩ := exists_mem_of_mapM hgroups group hgroup
  exact canonicalThroughout_expand (hitems item hitem) hexpand e he

end Criterion

namespace Expr

variable {items : List Criterion} (hitems : ∀ item ∈ items, item.IsCanonical)
include hitems

theorem canonicalThroughout_allOf (h : allOf items = .ok e) : e.CanonicalThroughout := by
  obtain ⟨es, hexprs, rfl⟩ := exists_of_map_eq_ok h
  exact .of_group .and (Criterion.canonicalThroughout_exprs hitems hexprs)

theorem canonicalThroughout_anyOf (h : anyOf items = .ok e) : e.CanonicalThroughout := by
  obtain ⟨es, hexprs, rfl⟩ := exists_of_map_eq_ok h
  exact .of_group .or (Criterion.canonicalThroughout_exprs hitems hexprs)

theorem canonicalThroughout_noneOf (h : noneOf items = .ok e) : e.CanonicalThroughout := by
  obtain ⟨t, hany, rfl⟩ := exists_of_map_eq_ok h
  exact (canonicalThroughout_anyOf hitems hany).negate

theorem canonicalThroughout_relate {path : Path} {op : Relationship} (h : path.relate op items = .ok e) :
    e.CanonicalThroughout := by
  obtain ⟨condition, hall, rfl⟩ := exists_of_map_eq_ok h
  exact .related path op (canonicalThroughout_allOf hitems hall)

end Expr

/-! ## Stored conditions -/

/-- Every condition that the statement stores is canonical all the way down and places a constraint. -/
def RowStatement.StoresCanonical {ε σ : Type} (s : RowStatement ε σ) : Prop :=
  ∀ e ∈ s.clauses.filters, e.CanonicalThroughout ∧ e.isEmpty = false

namespace RowStatement.StoresCanonical

variable {ε σ : Type} {s t : RowStatement ε σ} {l r : Select σ} {e : Expr} {items : List Criterion}

theorem filter (h : s.StoresCanonical) (he : e.CanonicalThroughout) : (s.filter e).StoresCanonical := by
  rw [RowStatement.filter]
  split
  · exact h
  next hlive =>
    intro f hf
    rcases List.mem_append.1 hf with hf | hf
    · exact h f hf
    · rw [List.mem_singleton.1 hf]
      exact ⟨he, by simpa using hlive⟩

theorem filterBy (h : s.StoresCanonical) (hitems : ∀ item ∈ items, item.IsCanonical)
    (ht : s.filterBy items = .ok t) : t.StoresCanonical := by
  obtain ⟨e, hall, rfl⟩ := exists_of_map_eq_ok ht
  exact h.filter (canonicalThroughout_allOf hitems hall)

theorem predicate (h : s.StoresCanonical) : s.clauses.predicate.CanonicalThroughout :=
  .of_group .and fun e he => (h e he).1

theorem union (hl : l.StoresCanonical) (hr : r.StoresCanonical) :
    RowStatement.StoresCanonical (l.union r) := by
  intro e he
  rw [Select.filters_union] at he
  split at he
  · exact absurd he List.not_mem_nil
  next hlive =>
    rw [Bool.or_eq_true, not_or, Bool.not_eq_true] at hlive
    rw [List.mem_singleton.1 he]
    refine ⟨.of_group .or ?_, isEmpty_any_cons hlive.1 _⟩
    simp only [List.forall_mem_cons]
    exact ⟨hl.predicate, hr.predicate, List.forall_mem_nil _⟩

end RowStatement.StoresCanonical

/-! ## The main statement -/

/-- **The builder functions keep trees canonical**, and on canonical trees negation is its own inverse: groups and
negations, criteria and what is combined from them, relations, and the conditions that a statement stores. So what they
make of canonical leaves is canonical, however often they are used. -/
theorem builder_functions_keep_trees_canonical :
    (∀ ts, (∀ t ∈ ts, t.CanonicalThroughout) → (all ts).CanonicalThroughout ∧ (any ts).CanonicalThroughout) ∧
    (∀ e, Built HasCanonicalCondition e → e.CanonicalThroughout) ∧
    (∀ e : Expr, e.CanonicalThroughout → e.negate.CanonicalThroughout ∧ e.normalForm.CanonicalThroughout ∧
      e.negate.negate = e ∧ e.negate.negate.text = e.text) ∧
    (∀ items : List Criterion, (∀ item ∈ items, item.IsCanonical) →
      (∀ es, Criterion.exprs items = .ok es → ∀ e ∈ es, e.CanonicalThroughout) ∧
      (∀ e, allOf items = .ok e ∨ anyOf items = .ok e ∨ noneOf items = .ok e → e.CanonicalThroughout) ∧
      (∀ (path : Path) op e, path.relate op items = .ok e → e.CanonicalThroughout) ∧
      ∀ (ε σ : Type) (s : RowStatement ε σ), s.StoresCanonical →
        ∀ t, s.filterBy items = .ok t → t.StoresCanonical) ∧
    (∀ (ε σ : Type) (s : RowStatement ε σ), s.StoresCanonical →
      ∀ e : Expr, e.CanonicalThroughout → (s.filter e).StoresCanonical) ∧
    ∀ (σ : Type) (l r : Select σ), l.StoresCanonical → r.StoresCanonical →
      RowStatement.StoresCanonical (l.union r) := by
  refine ⟨fun ts h => ⟨.of_group .and h, .of_group .or h⟩, fun e h => canonicalThroughout_iff.2 h.canonical,
    fun e h => ⟨h.negate, h.normalForm, ?_⟩,
    fun items hitems => ⟨fun es h => ?_, fun e h => ?_, fun path op e h => ?_, fun ε σ s hs t ht => ?_⟩,
    fun ε σ s hs e he => hs.filter he, fun σ l r hl hr => hl.union hr⟩
  · have htwice := (canonicalThroughout_iff.1 h).negate_negate
    exact ⟨htwice, by rw [htwice]⟩
  · exact Criterion.canonicalThroughout_exprs hitems h
  · rcases h with h | h | h
    · exact canonicalThroughout_allOf hitems h
    · exact canonicalThroughout_anyOf hitems h
    · exact canonicalThroughout_noneOf hitems h
  · exact canonicalThroughout_relate hitems h
  · exact hs.filterBy hitems ht

/-- A relation whose condition has alternatives, denied twice: it is the tree that it was before. -/
theorem relation_with_alternatives_denied_twice :
    ∃ e, (Path.mk ["tasks"]).relate .any [.expr (any [.raw "a is 1", .raw "b is 2"]), .skip, .raw "c is 3"] = .ok e ∧
      e.negate.text = "not tasks any ((a is 1 or b is 2) and c is 3)" ∧ e.negate.negate = e := by
  have hitems : ∀ item ∈ [.expr (any [.raw "a is 1", .raw "b is 2"]), .skip, .raw "c is 3"],
      Criterion.IsCanonical item := by
    simp only [List.forall_mem_cons]
    refine ⟨?_, by rintro _ ⟨⟩, by rintro _ ⟨⟩, List.forall_mem_nil _⟩
    rintro _ ⟨⟩
    refine (builder_functions_keep_trees_canonical.1 _ ?_).2
    simp only [List.forall_mem_cons]
    exact ⟨.raw _, .raw _, List.forall_mem_nil _⟩
  obtain ⟨-, -, hdenied, hcombined, -⟩ := builder_functions_keep_trees_canonical
  have hcanonical := (hcombined _ hitems).2.2.1 ⟨["tasks"]⟩ .any _ rfl
  exact ⟨_, rfl, by decide +kernel, (hdenied _ hcanonical).2.2.1⟩

end EntityQuery
