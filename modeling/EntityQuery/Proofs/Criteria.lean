import EntityQuery.Proofs.Built
import EntityQuery.Statement.Rows

/-!
# Criteria and the first that cannot be an expression

Only two kinds of criteria cannot be expressions: an entity without an attribute, and an equality with a subquery
(`Criterion.Offends`). Conversion stops at the first of them, where the equalities of a list stand in its place one by
one (`Criterion.flat`), and a list without any is turned into the expressions of its members, in order
(`Criterion.exprs_eq_ok_iff`, `Criterion.exprs_eq_error_iff`).

Everything that takes criteria converts them first and cannot fail afterwards, so all of it fails alike
(`FailsAtFirstOffender`).
-/

namespace EntityQuery

namespace Criterion

/-! ## Criteria without parts -/

def parts : Criterion → List Criterion
  | fields pairs => pairs.map fun (key, operand) => field key operand
  | item => [item]

/-- The criteria in order, with lists of equalities expanded in place. -/
def flat (items : List Criterion) : List Criterion := items.flatMap parts

/-- The criterion cannot be an expression, and this is what is reported of it. -/
inductive Offends : Criterion → Error → Prop
  | entity (e : EntityRef) : Offends (entity e) (.ambiguousEntity e)
  | field (key : String) (clauses : Clauses) : Offends (field key (.subquery clauses)) (.subqueryComparison key)

/-- What a criterion without parts says: at most one expression. An entity is compared by its identifier, which is
found under `id`. -/
def meaning : Criterion → List Expr
  | expr e => [e]
  | raw text => [.raw text]
  | field key (.value (.entity e)) => [.compare (.ofText (key ++ ".id")) .equal (.ofIdentifier e.id)]
  | field key (.value v) => [.compare (.ofText key) .equal v]
  | _ => []

/-- No entity stands on its own, and no equality, alone or in a list, has a subquery. -/
structure FreeOfOffenders (items : List Criterion) : Prop where
  noEntity (e : EntityRef) : entity e ∉ items
  noSubquery (key : String) (clauses : Clauses) : field key (.subquery clauses) ∉ items
  noneListed (pairs : List (String × Operand)) (key : String) (clauses : Clauses) : fields pairs ∈ items →
    (key, .subquery clauses) ∉ pairs

/-- The error is that of the first criterion in order that cannot be an expression. -/
def FirstOffence (items : List Criterion) (err : Error) : Prop :=
  ∃ before item after, flat items = before ++ item :: after ∧ (∀ b ∈ before, ∀ err, ¬ b.Offends err) ∧
    item.Offends err

variable {item : Criterion} {items xs ys : List Criterion} {es : List Expr} {err : Error}

theorem is_value (key : String) (v : Value) : [(Path.ofText key).is v] = (field key (.value v)).meaning := by
  cases v with
  | entity e =>
    have hpath : (Path.ofText key).identifier = Path.ofText (key ++ ".id") := by
      rw [Path.identifier, Path.append_ofText, String.append_assoc]
      rfl
    rw [Path.is, Path.compare, hpath, meaning]
  | _ => rfl

theorem expand_of_offends (h : item.Offends err) : item.expand = .error err := by
  cases h with
  | entity e => rfl
  | field key clauses => rfl

theorem expand_of_not_offends (hsingle : ∀ pairs, item ≠ fields pairs) (hnone : ∀ err, ¬ item.Offends err) :
    item.expand = .ok item.meaning := by
  cases item with
  | expr e => rfl
  | raw text => rfl
  | skip => rfl
  | fields pairs => exact absurd rfl (hsingle pairs)
  | entity e => exact absurd (.entity e) (hnone _)
  | field key operand =>
    cases operand with
    | value v =>
      rw [← is_value]
      rfl
    | subquery clauses => exact absurd (.field key clauses) (hnone _)

/-! ## Lists of criteria -/

theorem exprs_nil : exprs [] = .ok [] := rfl

theorem exprs_cons (item : Criterion) (items : List Criterion) :
    exprs (item :: items) = (do
      let es ← item.expand
      let fs ← exprs items
      return es ++ fs) := by
  rw [exprs, List.mapM_cons, exprs]
  cases item.expand with
  | error err => rfl
  | ok es =>
    cases items.mapM expand with
    | error err => rfl
    | ok groups => rfl

theorem exprs_map {α : Type} {f : α → Criterion} {g : α → Expr} (h : ∀ x, (f x).expand = .ok [g x]) (xs : List α) :
    exprs (xs.map f) = .ok (xs.map g) := by
  induction xs with
  | nil => rfl
  | cons x xs ih =>
    rw [List.map_cons, exprs_cons, h, ih]
    rfl

theorem exprs_map_expr (es : List Expr) : exprs (es.map expr) = .ok es :=
  (exprs_map (fun _ => rfl) es).trans (congrArg Except.ok (List.map_id es))

theorem exprs_append (xs ys : List Criterion) :
    exprs (xs ++ ys) = (do
      let es ← exprs xs
      let fs ← exprs ys
      return es ++ fs) := by
  induction xs with
  | nil =>
    rw [List.nil_append, exprs_nil]
    cases exprs ys <;> rfl
  | cons x xs ih =>
    rw [List.cons_append, exprs_cons, exprs_cons, ih]
    cases x.expand with
    | error err => rfl
    | ok es =>
      cases exprs xs with
      | error err => rfl
      | ok fs =>
        cases exprs ys with
        | error err => rfl
        | ok gs => exact congrArg Except.ok (List.append_assoc es fs gs).symm

theorem parts_of_single (hsingle : ∀ pairs, item ≠ fields pairs) : item.parts = [item] := by
  cases item with
  | fields pairs => exact absurd rfl (hsingle pairs)
  | _ => rfl

theorem exprs_parts (item : Criterion) : exprs item.parts = item.expand := by
  have hsingle (item : Criterion) : exprs [item] = item.expand := by
    rw [exprs_cons, exprs_nil]
    cases item.expand with
    | error err => rfl
    | ok es => exact congrArg Except.ok (List.append_nil es)
  cases item with
  | fields pairs =>
    induction pairs with
    | nil => rfl
    | cons pair pairs ih =>
      have hrest : exprs (pairs.map fun p => field p.1 p.2) = pairs.mapM equality := ih
      rw [parts, List.map_cons, exprs_cons, hrest, expand, expand, List.mapM_cons]
      cases equality pair with
      | error err => rfl
      | ok e => cases pairs.mapM equality <;> rfl
  | _ => exact hsingle _

theorem exprs_flat (items : List Criterion) : exprs (flat items) = exprs items := by
  induction items with
  | nil => rfl
  | cons item items ih =>
    have hsplit : flat (item :: items) = item.parts ++ flat items := List.flatMap_cons
    rw [hsplit, exprs_append, exprs_parts, ih, exprs_cons]

theorem mem_flat : item ∈ flat items ↔ (item ∈ items ∧ ∀ pairs, item ≠ fields pairs) ∨
    ∃ pairs key operand, fields pairs ∈ items ∧ (key, operand) ∈ pairs ∧ item = field key operand := by
  rw [flat, List.mem_flatMap]
  constructor
  · rintro ⟨whole, hwhole, hpart⟩
    by_cases hsingle : ∀ pairs, whole ≠ fields pairs
    · rw [parts_of_single hsingle, List.mem_singleton] at hpart
      exact .inl ⟨hpart ▸ hwhole, hpart ▸ hsingle⟩
    · push Not at hsingle
      obtain ⟨pairs, rfl⟩ := hsingle
      obtain ⟨⟨key, operand⟩, hpair, rfl⟩ := List.mem_map.1 hpart
      exact .inr ⟨pairs, key, operand, hwhole, hpair, rfl⟩
  · rintro (⟨hitem, hsingle⟩ | ⟨pairs, key, operand, hpairs, hpair, rfl⟩)
    · exact ⟨item, hitem, by rw [parts_of_single hsingle]; exact List.mem_singleton.2 rfl⟩
    · exact ⟨fields pairs, hpairs, List.mem_map.2 ⟨(key, operand), hpair, rfl⟩⟩

theorem ne_fields_of_mem_flat (h : item ∈ flat items) : ∀ pairs, item ≠ fields pairs := by
  obtain ⟨-, hsingle⟩ | ⟨_, key, operand, -, -, rfl⟩ := mem_flat.1 h
  · exact hsingle
  · rintro _ ⟨⟩

theorem freeOfOffenders_iff : FreeOfOffenders items ↔ ∀ item ∈ flat items, ∀ err, ¬ item.Offends err := by
  constructor
  · intro h item hitem err hoffends
    cases hoffends with
    | entity e =>
      obtain ⟨hmem, -⟩ | ⟨_, _, _, -, -, hfield⟩ := mem_flat.1 hitem
      · exact h.noEntity e hmem
      · cases hfield
    | field key clauses =>
      obtain ⟨hmem, -⟩ | ⟨pairs, _, _, hpairs, hpair, hfield⟩ := mem_flat.1 hitem
      · exact h.noSubquery key clauses hmem
      · cases hfield
        exact h.noneListed pairs key clauses hpairs hpair
  · intro h
    refine ⟨fun e hmem => ?_, fun key clauses hmem => ?_, fun pairs key clauses hmem hpair => ?_⟩
    · exact h _ (mem_flat.2 (.inl ⟨hmem, by rintro _ ⟨⟩⟩)) _ (.entity e)
    · exact h _ (mem_flat.2 (.inl ⟨hmem, by rintro _ ⟨⟩⟩)) _ (.field key clauses)
    · exact h _ (mem_flat.2 (.inr ⟨pairs, key, _, hmem, hpair, rfl⟩)) _ (.field key clauses)

/-! ## The first offender -/

theorem exprs_of_none_offends (hsingle : ∀ item ∈ items, ∀ pairs, item ≠ fields pairs)
    (hnone : ∀ item ∈ items, ∀ err, ¬ item.Offends err) : exprs items = .ok (items.flatMap meaning) := by
  induction items with
  | nil => rfl
  | cons item items ih =>
    obtain ⟨hitem, hitems⟩ := List.forall_mem_cons.1 hsingle
    obtain ⟨hnot, hnone⟩ := List.forall_mem_cons.1 hnone
    rw [exprs_cons, expand_of_not_offends hitem hnot, ih hitems hnone]
    rfl

theorem FirstOffence.exprs_eq (h : FirstOffence items err) : exprs items = .error err := by
  obtain ⟨before, item, after, hsplit, hbefore, hoffends⟩ := h
  have hsingle : ∀ b ∈ before, ∀ pairs, b ≠ fields pairs := by
    intro b hb
    have hmem : b ∈ flat items := by
      rw [hsplit]
      exact List.mem_append_left _ hb
    exact ne_fields_of_mem_flat hmem
  rw [← exprs_flat, hsplit, exprs_append, exprs_of_none_offends hsingle hbefore, exprs_cons,
    expand_of_offends hoffends]
  rfl

theorem split_at_first_offender (items : List Criterion) :
    (∀ item ∈ items, ∀ err, ¬ item.Offends err) ∨
      ∃ before item after err, items = before ++ item :: after ∧ (∀ b ∈ before, ∀ err, ¬ b.Offends err) ∧
        item.Offends err := by
  induction items with
  | nil => exact .inl (List.forall_mem_nil _)
  | cons item items ih =>
    by_cases hitem : ∃ err, item.Offends err
    · obtain ⟨err, herr⟩ := hitem
      exact .inr ⟨[], item, items, err, rfl, List.forall_mem_nil _, herr⟩
    · push Not at hitem
      obtain hnone | ⟨before, offender, after, err, rfl, hbefore, herr⟩ := ih
      · exact .inl (List.forall_mem_cons.2 ⟨hitem, hnone⟩)
      · exact .inr ⟨item :: before, offender, after, err, rfl, List.forall_mem_cons.2 ⟨hitem, hbefore⟩, herr⟩

theorem FreeOfOffenders.exprs_eq (h : FreeOfOffenders items) : exprs items = .ok ((flat items).flatMap meaning) := by
  rw [← exprs_flat]
  exact exprs_of_none_offends (fun _ => ne_fields_of_mem_flat) (freeOfOffenders_iff.1 h)

theorem free_or_firstOffence (items : List Criterion) : FreeOfOffenders items ∨ ∃ err, FirstOffence items err := by
  obtain hnone | ⟨before, item, after, err, hsplit, hbefore, herr⟩ := split_at_first_offender (flat items)
  · exact .inl (freeOfOffenders_iff.2 hnone)
  · exact .inr ⟨err, before, item, after, hsplit, hbefore, herr⟩

/-- **Criteria without an offender are converted, in order, and no others are.** -/
theorem exprs_eq_ok_iff : exprs items = .ok es ↔ FreeOfOffenders items ∧ es = (flat items).flatMap meaning := by
  constructor
  · intro h
    obtain hfree | ⟨err, hfirst⟩ := free_or_firstOffence items
    · rw [hfree.exprs_eq] at h
      exact ⟨hfree, (Except.ok.inj h).symm⟩
    · rw [hfirst.exprs_eq] at h
      cases h
  · rintro ⟨hfree, rfl⟩
    exact hfree.exprs_eq

/-- **Of other criteria the first offender is reported.** -/
theorem exprs_eq_error_iff : exprs items = .error err ↔ FirstOffence items err := by
  refine ⟨fun h => ?_, FirstOffence.exprs_eq⟩
  obtain hfree | ⟨err', hfirst⟩ := free_or_firstOffence items
  · rw [hfree.exprs_eq] at h
    cases h
  · rw [hfirst.exprs_eq] at h
    cases h
    exact hfirst

end Criterion

/-! ## What takes criteria -/

open Criterion

/-- The operation succeeds on the criteria without an offender, and of others it reports the first offender. -/
structure FailsAtFirstOffender {α : Type} (f : List Criterion → Except Error α) : Prop where
  succeeds_iff (items : List Criterion) : (∃ x, f items = .ok x) ↔ FreeOfOffenders items
  fails_iff (items : List Criterion) (err : Error) : f items = .error err ↔ FirstOffence items err

theorem failsAtFirstOffender_exprs : FailsAtFirstOffender exprs where
  succeeds_iff _ := ⟨fun ⟨_, h⟩ => (exprs_eq_ok_iff.1 h).1, fun hfree => ⟨_, hfree.exprs_eq⟩⟩
  fails_iff _ _ := exprs_eq_error_iff

theorem FailsAtFirstOffender.of_map {α β : Type} {f : List Criterion → Except Error α}
    {g : List Criterion → Except Error β} (h : FailsAtFirstOffender f) (rest : α → β)
    (hg : ∀ items, g items = (f items).map rest) : FailsAtFirstOffender g where
  succeeds_iff items := by
    rw [← h.succeeds_iff, hg]
    cases f items <;> simp [Except.map]
  fails_iff items err := by
    rw [← h.fails_iff, hg]
    cases f items <;> simp [Except.map]

/-- **Criteria fail alike wherever they are taken**: at the first entity without an attribute or equality with a
subquery, where lists of equalities stand in their place one by one, and at nothing else. The error names the entity or
the attribute. Without such an offender the conversion yields the expressions of the expanded list in order, so criteria
can be converted in pieces. -/
theorem criteria_fail_at_first_offender :
    FailsAtFirstOffender exprs ∧
    FailsAtFirstOffender Expr.allOf ∧ FailsAtFirstOffender Expr.anyOf ∧ FailsAtFirstOffender Expr.noneOf ∧
    (∀ (path : Path) (op : Relationship), FailsAtFirstOffender (path.relate op)) ∧
    (∀ (ε σ : Type) (s : RowStatement ε σ), FailsAtFirstOffender s.filterBy) ∧
    (∀ e : EntityRef, (Error.ambiguousEntity e).message = "keyword required for entity " ++ e.toText) ∧
    (∀ items es, exprs items = .ok es ↔ FreeOfOffenders items ∧ es = (flat items).flatMap meaning) ∧
    ∀ xs ys, exprs (xs ++ ys) = (do
      let es ← exprs xs
      let fs ← exprs ys
      return es ++ fs) := by
  have hall : FailsAtFirstOffender Expr.allOf := failsAtFirstOffender_exprs.of_map Expr.all fun _ => rfl
  have hany : FailsAtFirstOffender Expr.anyOf := failsAtFirstOffender_exprs.of_map Expr.any fun _ => rfl
  refine ⟨failsAtFirstOffender_exprs, hall, hany, hany.of_map Expr.negate fun _ => rfl, fun path op => ?_,
    fun ε σ s => ?_, fun e => ?_, fun items es => exprs_eq_ok_iff, exprs_append⟩
  · exact hall.of_map (Expr.related path op) fun _ => rfl
  · exact hall.of_map s.filter fun _ => rfl
  · rfl

example : exprs [.skip, .fields [("a", .value .null), ("b", .subquery { entityType := "Task" })],
    .entity ⟨none, .integer 7⟩] = .error (.subqueryComparison "b") := rfl

end EntityQuery
