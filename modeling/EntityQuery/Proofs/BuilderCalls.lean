import EntityQuery.Proofs.EqualRuns
import EntityQuery.Proofs.Grouping

/-!
# Builder calls

A statement over rows is built call by call; a call that fails leaves the statement as it was. Each call is about one
aspect of the statement, such as its conditions or its order (`BuilderCall.aspect`), and that is all it knows: it fails or not
whatever the statement is, it changes nothing outside its aspect, and what it makes of its aspect depends on nothing
else (`BuilderCall.apply_cases`).

Hence an aspect is at the end what the calls about it alone have made of it (`part_run_filter`), and the order of
calls about different aspects does not matter (`independent_calls_in_any_order`).
-/

namespace EntityQuery

inductive RowKind where
  | select
  | update
  | delete

abbrev RowKind.Effect : RowKind → Type
  | select => Unit
  | update => FieldValues
  | delete => Removal

abbrev Rows (k : RowKind) (σ : Type) := RowStatement k.Effect σ

def Rows.toStatement {σ : Type} : {k : RowKind} → Rows k σ → Statement σ
  | .select, s => .select s
  | .update, s => .update s
  | .delete, s => .delete s

inductive Aspect where
  | conditions
  | projection
  | groups
  | order
  | offset
  | limit
  /-- How the statement runs: page size and removal of components. -/
  | options
  | assignments
  | session
  deriving DecidableEq

inductive BuilderCall (σ : Type) : RowKind → Type where
  /-- Adds conditions: criteria, all of which must hold, or one expression. -/
  | narrow {k : RowKind} (call : FilterCall) : BuilderCall σ k
  | union (other : Select σ) : BuilderCall σ .select
  | populate {k : RowKind} (attributes : List String) : BuilderCall σ k
  /-- Gives the select the form that stands inside a membership test. -/
  | subquery : BuilderCall σ .select
  | groupBy {k : RowKind} (attributes : List String) : BuilderCall σ k
  /-- Adds the sort key that a text spells. -/
  | sort {k : RowKind} (key : String) : BuilderCall σ k
  | sortBy {k : RowKind} (key : SortKey) : BuilderCall σ k
  | reverse {k : RowKind} : BuilderCall σ k
  | clearSort {k : RowKind} : BuilderCall σ k
  | offset {k : RowKind} (n : UInt64) : BuilderCall σ k
  | limit {k : RowKind} (n : UInt64) : BuilderCall σ k
  | clearLimit {k : RowKind} : BuilderCall σ k
  | pageSize {k : RowKind} (n : UInt32) : BuilderCall σ k
  | options {k : RowKind} (o : RunOptions) : BuilderCall σ k
  | componentsFirst (first : Bool) : BuilderCall σ .delete
  | values (pairs : List (String × Value)) : BuilderCall σ .update
  | bind {k : RowKind} (session : σ) : BuilderCall σ k
  | unbind {k : RowKind} : BuilderCall σ k

variable {σ : Type} {k : RowKind}

namespace BuilderCall

def aspect : BuilderCall σ k → Aspect
  | narrow _ | union _ => .conditions
  | populate _ | subquery => .projection
  | groupBy _ => .groups
  | sort _ | sortBy _ | reverse | clearSort => .order
  | offset _ => .offset
  | limit _ | clearLimit => .limit
  | pageSize _ | options _ | componentsFirst _ => .options
  | values _ => .assignments
  | bind _ | unbind => .session

def apply : {k : RowKind} → Rows k σ → BuilderCall σ k → Except Error (Rows k σ)
  | _, s, narrow call => call.apply s
  | .select, s, union other => .ok (Select.union s other)
  | .select, s, populate attributes => .ok (Select.populate s attributes)
  | .update, s, populate attributes => Update.populate s attributes
  | .delete, s, populate attributes => Delete.populate s attributes
  | .select, s, subquery => .ok (Select.asSubquery s)
  | .select, s, groupBy attributes => .ok (Select.groupBy s attributes)
  | .update, s, groupBy attributes => Update.groupBy s attributes
  | .delete, s, groupBy attributes => Delete.groupBy s attributes
  | _, s, sort key => s.sort key
  | _, s, sortBy key => .ok (s.sortBy key)
  | _, s, reverse => .ok s.reverse
  | _, s, clearSort => .ok s.clearSort
  | _, s, offset n => .ok (s.offset n)
  | _, s, limit n => .ok (s.limit n)
  | _, s, clearLimit => .ok s.clearLimit
  | _, s, pageSize n => .ok (s.withPageSize n)
  | .select, s, options o => .ok (RowStatement.options s o)
  | .update, s, options o => .ok (RowStatement.options s o)
  | .delete, s, options o => .ok (Delete.options s o)
  | .delete, s, componentsFirst first => .ok (Delete.componentsFirst s first)
  | .update, s, values pairs => .ok (Update.values s pairs)
  | _, s, bind session => .ok (RowStatement.bind s session)
  | _, s, unbind => .ok s.unbind

/-- The statement after the call, which is the statement before it if the call fails. -/
def attempt (s : Rows k σ) (c : BuilderCall σ k) : Rows k σ :=
  match c.apply s with
  | .ok t => t
  | .error _ => s

def failure? (s : Rows k σ) (c : BuilderCall σ k) : Option Error :=
  match c.apply s with
  | .ok _ => none
  | .error err => some err

def run (s : Rows k σ) (calls : List (BuilderCall σ k)) : Rows k σ := calls.foldl attempt s

/-- Each call of a run, and the error with which it fails, if it does. -/
def report (s : Rows k σ) : List (BuilderCall σ k) → List (BuilderCall σ k × Option Error)
  | [] => []
  | c :: cs => (c, c.failure? s) :: report (c.attempt s) cs

end BuilderCall

/-- The calls about each aspect are the same, in the same order. -/
def BuilderCall.AlikeByAspect (calls calls' : List (BuilderCall σ k)) : Prop :=
  ∀ a, calls.filter (·.aspect = a) = calls'.filter (·.aspect = a)

/-! ## The parts of a statement -/

inductive Part (σ : Type) where
  | conditions (filters : List Expr)
  | projection (attributes : List String)
  | groups (attributes : List String)
  | order (keys : List SortKey)
  | offset (n : UInt64)
  | limit (n : Option UInt64)
  | options (pageSize : Option UInt32) (removal : Option Removal)
  | assignments (values : Option FieldValues)
  | session (session : Option σ)

namespace RowKind

def removal? : (k : RowKind) → k.Effect → Option Removal
  | delete, removal => some removal
  | _, _ => none

def assigned? : (k : RowKind) → k.Effect → Option FieldValues
  | update, values => some values
  | _, _ => none

theorem effect_eq {x y : k.Effect} (hremoval : k.removal? x = k.removal? y) (hassigned : k.assigned? x = k.assigned? y) :
    x = y := by
  cases k with
  | select => rfl
  | update => exact Option.some.inj hassigned
  | delete => exact Option.some.inj hremoval

end RowKind

def part (s : Rows k σ) : Aspect → Part σ
  | .conditions => .conditions s.clauses.filters
  | .projection => .projection s.clauses.projection
  | .groups => .groups s.clauses.groupBy
  | .order => .order s.clauses.sort
  | .offset => .offset s.clauses.offset
  | .limit => .limit s.clauses.limit
  | .options => .options s.pageSize (k.removal? s.effect)
  | .assignments => .assignments (k.assigned? s.effect)
  | .session => .session s.session

theorem eq_of_parts {s t : Rows k σ} (htype : s.entityType = t.entityType) (h : part s = part t) : s = t := by
  have hfilters := Part.conditions.inj (congrFun h .conditions)
  have hprojection := Part.projection.inj (congrFun h .projection)
  have hgroups := Part.groups.inj (congrFun h .groups)
  have horder := Part.order.inj (congrFun h .order)
  have hoffset := Part.offset.inj (congrFun h .offset)
  have hlimit := Part.limit.inj (congrFun h .limit)
  obtain ⟨hpageSize, hremoval⟩ := Part.options.inj (congrFun h .options)
  have hassigned := Part.assignments.inj (congrFun h .assignments)
  have hsession := Part.session.inj (congrFun h .session)
  have heffect := RowKind.effect_eq hremoval hassigned
  obtain ⟨⟨_, _, _, _, _, _, _⟩, _, _, _⟩ := s
  obtain ⟨⟨_, _, _, _, _, _, _⟩, _, _, _⟩ := t
  simp only [RowStatement.entityType] at *
  subst_vars
  rfl

/-! ## What a call can do -/

/-- The function makes of one part what `change` makes of it, and leaves the others as they are. -/
structure Edits (a : Aspect) (change : Part σ → Part σ) (f : Rows k σ → Rows k σ) : Prop where
  entityType (s : Rows k σ) : (f s).entityType = s.entityType
  part (s : Rows k σ) : part (f s) = Function.update (part s) a (change (part s a))

section

variable (g : List String → List String)

theorem edits_filters (g : List Expr → List Expr) :
    Edits .conditions (fun | .conditions es => .conditions (g es) | p => p) fun s : Rows k σ =>
      { s with clauses := { s.clauses with filters := g s.clauses.filters } } :=
  ⟨fun _ => rfl, fun _ => funext fun b => by cases b <;> rfl⟩

theorem edits_projection :
    Edits .projection (fun | .projection attributes => .projection (g attributes) | p => p) fun s : Rows k σ =>
      { s with clauses := { s.clauses with projection := g s.clauses.projection } } :=
  ⟨fun _ => rfl, fun _ => funext fun b => by cases b <;> rfl⟩

theorem edits_groupBy :
    Edits .groups (fun | .groups attributes => .groups (g attributes) | p => p) fun s : Rows k σ =>
      { s with clauses := { s.clauses with groupBy := g s.clauses.groupBy } } :=
  ⟨fun _ => rfl, fun _ => funext fun b => by cases b <;> rfl⟩

theorem edits_sort (g : List SortKey → List SortKey) :
    Edits .order (fun | .order keys => .order (g keys) | p => p) fun s : Rows k σ =>
      { s with clauses := { s.clauses with sort := g s.clauses.sort } } :=
  ⟨fun _ => rfl, fun _ => funext fun b => by cases b <;> rfl⟩

theorem edits_limit (n : Option UInt64) :
    Edits .limit (fun _ => .limit n) fun s : Rows k σ => { s with clauses := { s.clauses with limit := n } } :=
  ⟨fun _ => rfl, fun _ => funext fun b => by cases b <;> rfl⟩

theorem edits_pageSize (g : Option UInt32 → Option UInt32) :
    Edits .options (fun | .options pageSize removal => .options (g pageSize) removal | p => p) fun s : Rows k σ =>
      { s with pageSize := g s.pageSize } :=
  ⟨fun _ => rfl, fun _ => funext fun b => by cases b <;> rfl⟩

theorem edits_offset (n : UInt64) :
    Edits .offset (fun _ => .offset n) fun s : Rows k σ => { s with clauses := { s.clauses with offset := n } } :=
  ⟨fun _ => rfl, fun _ => funext fun b => by cases b <;> rfl⟩

theorem edits_removal (g : Option UInt32 → Option UInt32) (r : Removal → Removal) :
    Edits .options (fun | .options pageSize removal => .options (g pageSize) (removal.map r) | p => p)
      fun s : Rows .delete σ => { s with pageSize := g s.pageSize, effect := r s.effect } :=
  ⟨fun _ => rfl, fun _ => funext fun b => by cases b <;> rfl⟩

theorem edits_assignments (g : FieldValues → FieldValues) :
    Edits .assignments (fun | .assignments values => .assignments (values.map g) | p => p)
      fun s : Rows .update σ => { s with effect := g s.effect } :=
  ⟨fun _ => rfl, fun _ => funext fun b => by cases b <;> rfl⟩

theorem edits_session (session : Option σ) :
    Edits .session (fun _ => .session session) fun s : Rows k σ => { s with session := session } :=
  ⟨fun _ => rfl, fun _ => funext fun b => by cases b <;> rfl⟩

end

theorem apply_call_error {ε : Type} {s : RowStatement ε σ} {call : FilterCall} {err : Error}
    (h : Criterion.exprs call.items = .error err) : call.apply s = .error err := by
  cases call with
  | criteria items =>
    rw [FilterCall.apply, RowStatement.filterBy, Expr.allOf, show Criterion.exprs items = .error err from h]
    rfl
  | expr e => cases h

/-- **All that a call can do**: it fails on every statement with the same error, or it edits one part. -/
theorem BuilderCall.apply_cases (c : BuilderCall σ k) :
    (∃ err, ∀ s, c.apply s = .error err) ∨
    ∃ change f, Edits c.aspect change f ∧ ∀ s, c.apply s = .ok (f s) := by
  cases c with
  | narrow call =>
    cases hexprs : Criterion.exprs call.items with
    | error err => exact .inl ⟨err, fun s => apply_call_error hexprs⟩
    | ok es => exact .inr ⟨_, _, edits_filters (· ++ Expr.live [.all es]), fun s => RowStatement.apply_call hexprs⟩
  | union other =>
    exact .inr ⟨_, _, edits_filters fun filters =>
      if (Expr.all filters).isEmpty || other.clauses.predicate.isEmpty then []
      else [.any [.all filters, other.clauses.predicate]], fun s => rfl⟩
  | populate attributes =>
    cases k with
    | select => exact .inr ⟨_, _, edits_projection (· ++ attributes.filter (!·.isEmpty)), fun s => rfl⟩
    | update => exact .inl ⟨_, fun s => rfl⟩
    | delete => exact .inl ⟨_, fun s => rfl⟩
  | subquery =>
    refine .inr ⟨_, _, edits_projection fun attributes =>
      if attributes.isEmpty then [Path.identifierField] else attributes, fun s => ?_⟩
    obtain ⟨⟨⟩⟩ := s
    rw [apply, Select.asSubquery, Clauses.asSubquery]
    split <;> rfl
  | groupBy attributes =>
    cases k with
    | select => exact .inr ⟨_, _, edits_groupBy (· ++ attributes.filter (!·.isEmpty)), fun s => rfl⟩
    | update => exact .inl ⟨_, fun s => rfl⟩
    | delete => exact .inl ⟨_, fun s => rfl⟩
  | sort key =>
    cases hkey : SortKey.read key with
    | error err => exact .inl ⟨err, fun s => by rw [apply, RowStatement.sort, hkey]; rfl⟩
    | ok sortKey => exact .inr ⟨_, _, edits_sort (· ++ [sortKey]), fun s => by rw [apply, RowStatement.sort, hkey]; rfl⟩
  | sortBy key => exact .inr ⟨_, _, edits_sort (· ++ [key]), fun s => rfl⟩
  | reverse => exact .inr ⟨_, _, edits_sort (·.map SortKey.reversed), fun s => rfl⟩
  | clearSort => exact .inr ⟨_, _, edits_sort fun _ => [], fun s => rfl⟩
  | offset n => exact .inr ⟨_, _, edits_offset n, fun s => rfl⟩
  | limit n => exact .inr ⟨_, _, edits_limit (some n), fun s => rfl⟩
  | clearLimit => exact .inr ⟨_, _, edits_limit none, fun s => rfl⟩
  | pageSize n => exact .inr ⟨_, _, edits_pageSize fun _ => some n, fun s => rfl⟩
  | options o =>
    cases k with
    | select => exact .inr ⟨_, _, edits_pageSize o.pageSize.or, fun s => rfl⟩
    | update => exact .inr ⟨_, _, edits_pageSize o.pageSize.or, fun s => rfl⟩
    | delete =>
      exact .inr ⟨_, _, edits_removal o.pageSize.or fun r => ⟨o.componentsFirst.getD r.componentsFirst⟩, fun s => rfl⟩
  | componentsFirst first => exact .inr ⟨_, _, edits_removal id fun _ => ⟨first⟩, fun s => rfl⟩
  | values pairs => exact .inr ⟨_, _, edits_assignments (·.extend pairs), fun s => rfl⟩
  | bind session => exact .inr ⟨_, _, edits_session (some session), fun s => rfl⟩
  | unbind => exact .inr ⟨_, _, edits_session none, fun s => rfl⟩

/-! ## One call -/

namespace BuilderCall

variable {s t : Rows k σ} {a : Aspect}

theorem attempt_of_error {c : BuilderCall σ k} {err : Error} (h : c.apply s = .error err) : c.attempt s = s := by
  rw [attempt, h]

theorem attempt_of_ok {c : BuilderCall σ k} (h : c.apply s = .ok t) : c.attempt s = t := by
  rw [attempt, h]

theorem entityType_attempt (s : Rows k σ) (c : BuilderCall σ k) : (c.attempt s).entityType = s.entityType := by
  rcases c.apply_cases with ⟨err, herr⟩ | ⟨change, f, hf, hok⟩
  · rw [attempt_of_error (herr s)]
  · rw [attempt_of_ok (hok s), hf.entityType]

theorem part_attempt (c : BuilderCall σ k) (h : part s a = part t a) : part (c.attempt s) a = part (c.attempt t) a := by
  rcases c.apply_cases with ⟨err, herr⟩ | ⟨change, f, hf, hok⟩
  · rwa [attempt_of_error (herr s), attempt_of_error (herr t)]
  · rw [attempt_of_ok (hok s), attempt_of_ok (hok t), hf.part, hf.part]
    by_cases ha : a = c.aspect
    · subst ha
      rw [Function.update_self, Function.update_self, h]
    · rwa [Function.update_of_ne ha, Function.update_of_ne ha]

theorem part_attempt_of_ne {c : BuilderCall σ k} (h : a ≠ c.aspect) : part (c.attempt s) a = part s a := by
  rcases c.apply_cases with ⟨err, herr⟩ | ⟨change, f, hf, hok⟩
  · rw [attempt_of_error (herr s)]
  · rw [attempt_of_ok (hok s), hf.part, Function.update_of_ne h]

theorem failure?_eq (s t : Rows k σ) (c : BuilderCall σ k) : c.failure? s = c.failure? t := by
  rcases c.apply_cases with ⟨err, herr⟩ | ⟨change, f, hf, hok⟩
  · rw [failure?, failure?, herr, herr]
  · rw [failure?, failure?, hok, hok]

/-! ## Runs -/

variable {calls : List (BuilderCall σ k)}

theorem entityType_run (s : Rows k σ) (calls : List (BuilderCall σ k)) : (run s calls).entityType = s.entityType := by
  induction calls generalizing s with
  | nil => rfl
  | cons c calls ih => exact (ih _).trans (entityType_attempt s c)

/-- **A part is at the end what the calls about it alone have made of it.** -/
theorem part_run_filter (h : part s a = part t a) :
    part (run s calls) a = part (run t (calls.filter (·.aspect = a))) a := by
  induction calls generalizing s t with
  | nil => exact h
  | cons c calls ih =>
    by_cases ha : a = c.aspect
    · subst ha
      rw [List.filter_cons_of_pos (by simp)]
      exact ih (part_attempt c h)
    · rw [List.filter_cons_of_neg (by simpa using Ne.symm ha)]
      exact ih ((part_attempt_of_ne ha).trans h)

theorem report_eq_map (s t : Rows k σ) (calls : List (BuilderCall σ k)) :
    report s calls = calls.map fun c => (c, c.failure? t) := by
  induction calls generalizing s with
  | nil => rfl
  | cons c calls ih => rw [report, ih, List.map_cons, failure?_eq s t]

theorem report_filter (s : Rows k σ) (a : Aspect) (calls : List (BuilderCall σ k)) :
    (report s calls).filter (·.1.aspect = a) = (calls.filter (·.aspect = a)).map fun c => (c, c.failure? s) := by
  rw [report_eq_map s s, List.filter_map]
  rfl

end BuilderCall

theorem Rows.beq_toStatement_self (s : Rows k σ) : (s.toStatement == s.toStatement) = true := by
  cases k with
  | select => exact RowStatement.equalBy_iff.2 ⟨rfl, rfl⟩
  | update => exact RowStatement.equalBy_iff.2 ⟨rfl, rfl⟩
  | delete => exact RowStatement.equalBy_iff.2 ⟨rfl, rfl⟩

/-! ## The main statement -/

open BuilderCall in
/-- **The order of calls about different aspects does not matter.** Runs whose calls are alike by aspect lead to the same
statement, so to one text, to equal statements and to one way of executing, and their calls fail with the same errors. -/
theorem independent_calls_in_any_order {s : Rows k σ} {calls calls' : List (BuilderCall σ k)}
    (h : AlikeByAspect calls calls') :
    run s calls = run s calls' ∧
    (∀ a, (report s calls).filter (·.1.aspect = a) = (report s calls').filter (·.1.aspect = a)) ∧
    (run s calls).toStatement.text = (run s calls').toStatement.text ∧
    ((run s calls).toStatement == (run s calls').toStatement) = true ∧
    ∀ {ω ρ : Type} (session : Session ω ρ),
      (run s calls).toStatement.executeIn session = (run s calls').toStatement.executeIn session := by
  have hsame : run s calls = run s calls' := by
    refine eq_of_parts ((entityType_run s calls).trans (entityType_run s calls').symm) (funext fun a => ?_)
    rw [part_run_filter rfl, h a, ← part_run_filter rfl]
  refine ⟨hsame, fun a => ?_, by rw [hsame], ?_, fun session => by rw [hsame]⟩
  · rw [report_filter, report_filter, h a]
  · rw [hsame]
    exact Rows.beq_toStatement_self _

open BuilderCall in
/-- Four calls on a delete, of which the one with the unknown direction fails, in two orders. -/
theorem delete_built_in_two_orders :
    AlikeByAspect (σ := Unit) [sort "name up", narrow (.expr (.raw "a is 1")), componentsFirst true, sort "name"]
      [componentsFirst true, sort "name up", sort "name", narrow (.expr (.raw "a is 1"))] ∧
    run (k := .delete) (Delete.ofType "Task" : Delete Unit)
        [sort "name up", narrow (.expr (.raw "a is 1")), componentsFirst true, sort "name"] =
      run (k := .delete) (Delete.ofType "Task" : Delete Unit)
        [componentsFirst true, sort "name up", sort "name", narrow (.expr (.raw "a is 1"))] ∧
    (report (k := .delete) (Delete.ofType "Task" : Delete Unit)
        [sort "name up", narrow (.expr (.raw "a is 1")), componentsFirst true, sort "name"]).map (·.2) =
      [some (.unknownSortDirection "up"), none, none, none] := by
  have halike : AlikeByAspect (σ := Unit)
      [sort "name up", narrow (.expr (.raw "a is 1")), componentsFirst true, sort "name"]
      [componentsFirst true, sort "name up", sort "name", narrow (.expr (.raw "a is 1"))] := by
    intro a
    cases a <;> rfl
  exact ⟨halike, (independent_calls_in_any_order halike).1, rfl⟩

end EntityQuery
