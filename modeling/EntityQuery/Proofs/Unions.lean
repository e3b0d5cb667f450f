import EntityQuery.Proofs.BuilderCalls

/-!
# Unions

The union of two selects fetches the rows of either: it is the first select with the two conditions as alternatives. A
side without conditions has every row, so its union has no condition at all, although a disjunction would pass over an
empty alternative (`holds_union`). Conditions that later calls add come beside it as one more conjunct each
(`holds_run_narrow`).

Whether a side is without conditions is decided on its combined condition. For selects that come from builder calls
this is the same as storing none: no call stores a condition that places no constraint (`Select.Made.live_filters`).
-/

namespace EntityQuery

open EntityQuery.Expr BuilderCall

/-- The selects that come from builder calls, among them unions with other such selects. -/
inductive Select.Made {σ : Type} : Select σ → Prop
  | ofType (entityType : String) : Made (ofType entityType)
  | ofPath (path : String) : Made (ofPath path)
  | ofPaths {paths : List String} {s : Select σ} : ofPaths paths = .ok s → Made s
  | call {s : Select σ} (c : BuilderCall σ .select) : Made s → (∀ other, c = .union other → Made other) →
      Made (attempt (k := .select) s c)

variable {σ : Type} {k : RowKind} {s l r : Select σ} {leaf : Expr → Prop} {es : List Expr}

/-! ## Stored conditions -/

theorem attempt_narrow_ok {s : Rows k σ} {call : FilterCall} (h : Criterion.exprs call.items = .ok es) :
    attempt s (narrow call) = s.conjoin (live [all es]) := by
  refine attempt_of_ok ?_
  rw [apply]
  exact RowStatement.apply_call h

theorem attempt_narrow_error {s : Rows k σ} {call : FilterCall} {err : Error}
    (h : Criterion.exprs call.items = .error err) : attempt s (narrow call) = s := by
  have herror : (narrow call : BuilderCall σ k).apply s = .error err := by
    rw [apply]
    exact apply_call_error h
  exact attempt_of_error herror

theorem live_filters_attempt (c : BuilderCall σ .select) (h : ∀ e ∈ s.clauses.filters, e.isEmpty = false) :
    ∀ e ∈ (attempt (k := .select) s c).clauses.filters, e.isEmpty = false := by
  by_cases haspect : Aspect.conditions = c.aspect
  · cases c with
    | narrow call =>
      cases hexprs : Criterion.exprs call.items with
      | error err => rwa [attempt_narrow_error hexprs]
      | ok es =>
        rw [attempt_narrow_ok hexprs]
        intro e he
        rcases List.mem_append.1 he with he | he
        · exact h e he
        · exact (mem_live.1 he).2
    | union other =>
      intro e he
      have hunion : e ∈ (s.union other).clauses.filters := he
      rw [Select.filters_union] at hunion
      -- a union stores one condition if both sides have one, and else none
      split at hunion
      · exact absurd hunion List.not_mem_nil
      next hlive =>
        rw [Bool.or_eq_true, not_or, Bool.not_eq_true] at hlive
        rw [List.mem_singleton.1 hunion]
        exact isEmpty_any_cons hlive.1 _
    | _ => cases haspect
  · have hsame := Part.conditions.inj (part_attempt_of_ne (k := .select) (s := s) haspect)
    rwa [hsame]

namespace Select.Made

theorem live_filters (h : s.Made) : ∀ e ∈ s.clauses.filters, e.isEmpty = false := by
  induction h with
  | ofType entityType => exact List.forall_mem_nil _
  | ofPath path => exact List.forall_mem_nil _
  | ofPaths hpaths =>
    rw [Select.ofPaths] at hpaths
    split at hpaths
    · cases hpaths
    · cases hpaths
      exact List.forall_mem_nil _
  | call c _ _ ih => exact live_filters_attempt c ih

theorem isEmpty_predicate_iff (h : s.Made) : s.clauses.predicate.isEmpty = true ↔ s.clauses.filters = [] := by
  rw [Clauses.predicate, Expr.all, isEmpty_group, ← live_eq_nil_iff, live_eq_self h.live_filters]

theorem filters_union (hl : l.Made) (hr : r.Made) : (l.union r).clauses.filters =
    if l.clauses.filters = [] ∨ r.clauses.filters = [] then [] else [any [l.clauses.predicate, r.clauses.predicate]] := by
  simp only [Select.filters_union, Bool.or_eq_true, hl.isEmpty_predicate_iff, hr.isEmpty_predicate_iff]

end Select.Made

/-! ## What they mean -/

theorem holds_predicate {c : Clauses} : c.predicate.Holds leaf ↔ ∀ e ∈ live c.filters, e.Holds leaf := holds_all

theorem holds_all_of_isEmpty (h : (all es).isEmpty = true) : (all es).Holds leaf := by
  rw [all, isEmpty_group, ← live_eq_nil_iff] at h
  rw [holds_all, h]
  exact List.forall_mem_nil _

/-- **The union holds where one side does.** An empty condition always holds, and then the union has none. -/
theorem holds_union (l r : Select σ) : (l.union r).clauses.predicate.Holds leaf ↔
    l.clauses.predicate.Holds leaf ∨ r.clauses.predicate.Holds leaf := by
  rw [holds_predicate, Select.filters_union]
  split
  next hempty =>
    refine iff_of_true (List.forall_mem_nil _) ?_
    rcases Bool.or_eq_true_iff.1 hempty with hl | hr
    · exact .inl (holds_all_of_isEmpty hl)
    · exact .inr (holds_all_of_isEmpty hr)
  next hlive =>
    rw [Bool.or_eq_true, not_or, Bool.not_eq_true, Bool.not_eq_true] at hlive
    have hsides : live [l.clauses.predicate, r.clauses.predicate] = [l.clauses.predicate, r.clauses.predicate] :=
      live_eq_self (by simpa using hlive)
    simp [live_cons, isEmpty_any_cons hlive.1, holds_any, hsides]

theorem holds_conjoin (s : Rows k σ) (es : List Expr) : (s.conjoin (live [all es])).clauses.predicate.Holds leaf ↔
    s.clauses.predicate.Holds leaf ∧ (all es).Holds leaf := by
  rw [holds_predicate, RowStatement.conjoin, live_append, live_live]
  simp only [List.mem_append, or_imp, forall_and]
  rw [← holds_predicate]
  refine and_congr_right fun _ => ?_
  cases hempty : (all es).isEmpty with
  | true => exact iff_of_true (by simp [live_cons, hempty]) (holds_all_of_isEmpty hempty)
  | false => simp [live_cons, hempty]

/-- What the call adds to the conditions holds. A call that fails adds nothing. -/
def FilterCall.AddsHolding (call : FilterCall) (leaf : Expr → Prop) : Prop :=
  ∀ es, Criterion.exprs call.items = .ok es → (all es).Holds leaf

theorem holds_attempt_narrow (s : Rows k σ) (call : FilterCall) :
    (attempt s (narrow call)).clauses.predicate.Holds leaf ↔
      s.clauses.predicate.Holds leaf ∧ call.AddsHolding leaf := by
  cases hexprs : Criterion.exprs call.items with
  | error err =>
    rw [attempt_narrow_error hexprs, FilterCall.AddsHolding, hexprs]
    exact (and_iff_left (by rintro _ ⟨⟩)).symm
  | ok es =>
    rw [attempt_narrow_ok hexprs, holds_conjoin, FilterCall.AddsHolding, hexprs]
    simp only [Except.ok.injEq, forall_eq']

/-- **Calls that add conditions narrow the condition** by what each of them adds. -/
theorem holds_run_narrow (s : Rows k σ) (calls : List FilterCall) :
    (run s (calls.map narrow)).clauses.predicate.Holds leaf ↔
      s.clauses.predicate.Holds leaf ∧ ∀ call ∈ calls, call.AddsHolding leaf := by
  induction calls generalizing s with
  | nil => exact (and_iff_left (List.forall_mem_nil _)).symm
  | cons call calls ih =>
    rw [List.forall_mem_cons, ← and_assoc, ← holds_attempt_narrow]
    exact ih _

/-! ## The text of a union -/

theorem conditionParts_of_live {e : Expr} (h : e.isEmpty = false) :
    Clauses.conditionParts (all [e]).text = ["where", e.text] := by
  have hsame : all [e] = e := by
    simp [all, group, live_cons, h]
  rw [hsame, Clauses.conditionParts_of_shown (text_ne_nil h)]

theorem Select.Made.text_union (hl : l.Made) (hr : r.Made) : (l.union r).text =
    joinParts (l.clauses.front true ++ ((if l.clauses.filters = [] ∨ r.clauses.filters = [] then []
      else ["where", (any [l.clauses.predicate, r.clauses.predicate]).text]) ++ l.clauses.back)) := by
  have hcondition : Clauses.conditionParts (l.union r).clauses.predicate.text =
      if l.clauses.filters = [] ∨ r.clauses.filters = [] then []
      else ["where", (any [l.clauses.predicate, r.clauses.predicate]).text] := by
    rw [Clauses.predicate, hl.filters_union hr]
    split
    · rfl
    next hsome =>
      rw [not_or, ← hl.isEmpty_predicate_iff, Bool.not_eq_true] at hsome
      exact conditionParts_of_live (isEmpty_any_cons hsome.1 _)
  rw [Select.text, Clauses.text_eq_parts, hcondition]
  rfl

/-! ## The main statement -/

/-- **The union of selects is the disjunction of their conditions**, whatever the calls that made them, and conditions
which are added later narrow it. A side without conditions always holds: then the union has none, and none in its text.
Everything else is that of the first select. -/
theorem union_is_disjunction (hl : l.Made) (hr : r.Made) :
    (∀ leaf, (l.union r).clauses.predicate.Holds leaf ↔
      l.clauses.predicate.Holds leaf ∨ r.clauses.predicate.Holds leaf) ∧
    (∀ s : Select σ, s.clauses.filters = [] → ∀ leaf, s.clauses.predicate.Holds leaf) ∧
    ((l.union r).clauses.filters = [] ↔ l.clauses.filters = [] ∨ r.clauses.filters = []) ∧
    (l.union r).text =
      joinParts (l.clauses.front true ++ ((if l.clauses.filters = [] ∨ r.clauses.filters = [] then []
        else ["where", (any [l.clauses.predicate, r.clauses.predicate]).text]) ++ l.clauses.back)) ∧
    l.union r = { l with clauses := { l.clauses with filters := (l.union r).clauses.filters } } ∧
    ∀ (calls : List FilterCall) (leaf : Expr → Prop),
      (run (k := .select) (l.union r) (calls.map narrow)).clauses.predicate.Holds leaf ↔
        (l.clauses.predicate.Holds leaf ∨ r.clauses.predicate.Holds leaf) ∧
          ∀ call ∈ calls, ∀ es, Criterion.exprs call.items = .ok es → (all es).Holds leaf := by
  refine ⟨fun leaf => holds_union l r, fun s hnone leaf => ?_, ?_, hl.text_union hr, rfl, fun calls leaf => ?_⟩
  · rw [Clauses.predicate, hnone]
    exact holds_all_of_isEmpty rfl
  · rw [hl.filters_union hr]
    split <;> simp_all
  · rw [holds_run_narrow, holds_union]
    rfl

/-- The union of a select with a limit and another one, then one more condition. -/
theorem union_narrowed_afterwards :
    ∃ l r : Select Unit, l.Made ∧ r.Made ∧ (l.union r).text = "Task where (a is 1 or b is 2) limit 5" ∧
      ∀ leaf, (run (k := .select) (l.union r) [narrow (.expr (.raw "c is 3"))]).clauses.predicate.Holds leaf ↔
        (leaf (.raw "a is 1") ∨ leaf (.raw "b is 2")) ∧ leaf (.raw "c is 3") := by
  have hleft := Select.Made.call (.limit 5)
    (.call (.narrow (.expr (.raw "a is 1"))) (.ofType (σ := Unit) "Task") (by rintro _ ⟨⟩)) (by rintro _ ⟨⟩)
  have hright := Select.Made.call (.narrow (.expr (.raw "b is 2"))) (.ofType (σ := Unit) "Task") (by rintro _ ⟨⟩)
  refine ⟨_, _, hleft, hright, by decide +kernel, fun leaf => ?_⟩
  obtain ⟨-, -, -, -, -, hnarrowed⟩ := union_is_disjunction hleft hright
  have hcall : (∀ call ∈ [FilterCall.expr (.raw "c is 3")], ∀ es, Criterion.exprs call.items = .ok es →
      (all es).Holds leaf) ↔ leaf (.raw "c is 3") := by
    rw [List.forall_mem_singleton]
    refine ⟨fun h => h _ rfl, ?_⟩
    rintro h _ ⟨⟩
    exact h
  exact (hnarrowed _ leaf).trans (and_congr_right fun _ => hcall)

end EntityQuery
