import EntityQuery.Proofs.BulkRuns

/-!
# Operations on a session

Whatever can be asked of a session through a statement, as one type: `Operation.run` asks it of a session, and what the
session is asked for is seen by watching a session with the default lookups (`Backend.withLookups`), for which the
watched operation is the operation (`Operation.mirrors_run`).
-/

namespace EntityQuery

variable {ω ρ σ ε α β : Type}

def Backend.withLookups (b : Backend ω ρ) : Session ω ρ := { b with }

inductive Operation (σ : Type) where
  | execute (s : Statement σ)
  | executeIn (s : Statement σ)
  | one (s : Select σ)
  | first (s : Select σ)
  | all (s : Select σ)
  | count (s : Select σ)
  | get (s : Select σ) (id : Identifier)
  | ensure (s : Select σ) (pairs : List (String × Value))
  | byPrimaryKey (s : Select σ) (v : Value)

namespace Operation

/-- Asks it of the session, through the statement bound to it, and leaves out what a success brings. -/
def run (session : Session ω ρ) : Operation σ → Action ω Error Unit
  | execute s => discard (s.bind session).execute
  | executeIn s => discard (s.executeIn session)
  | one s => discard (Select.one (s.bind session))
  | first s => discard (Select.first (s.bind session))
  | all s => discard (Select.all (s.bind session))
  | count s => discard (Select.count (s.bind session))
  | get s id => discard (Select.get (s.bind session) id)
  | ensure s pairs => discard (Select.ensure (s.bind session) pairs)
  | byPrimaryKey s v => discard (Select.byPrimaryKey (s.bind session) v)

end Operation

/-! ## Bound statements -/

theorem Statement.execute_bind (s : Statement σ) (session : Session ω ρ) :
    (s.bind session).execute = s.executeIn session := by
  cases s with
  | select s => rfl
  | insert s => rfl
  | update s => rfl
  | delete s => rfl

theorem RowStatement.entityType_bind {effect τ : Type} (s : RowStatement effect σ) (session : τ) :
    (s.bind session).entityType = s.entityType := rfl

theorem RowStatement.filter_bind {effect τ : Type} (s : RowStatement effect σ) (session : τ) (e : Expr) :
    (s.bind session).filter e = (s.filter e).bind session := by
  rw [filter, filter]
  split
  · rfl
  · rfl

/-! ## Nothing found -/

namespace Select

def orNoneResult : Except Error α → Except Error (Option α)
  | .ok x => .ok (some x)
  | .error (.noResultFound _) => .ok none
  | .error e => .error e

theorem outcome_orNone (a : Action ω Error ρ) (w : ω) :
    (orNone a).outcome w = (orNoneResult (a.outcome w).1, (a.outcome w).2) := by
  rcases ha : a.outcome w with ⟨result, w'⟩
  rw [orNone, map_eq_pure_bind]
  cases result with
  | ok x => exact Action.outcome_tryCatch_ok (Action.outcome_bind_ok ha)
  | error e =>
    rw [Action.outcome_tryCatch_error (Action.outcome_bind_error ha)]
    cases e <;> rfl

end Select

/-! ## The watched operation is the operation -/

section mirrors

variable (result : QueryResult ω ρ)

theorem mirrors_first : Mirrors Eq result.watched.first result.first := by
  obtain ⟨text, rows⟩ := result
  cases rows with
  | nil => exact .pure rfl
  | cons fetch rest =>
    have hfetch : Mirrors Eq (noted (.fetch 0) Reply.row fetch) fetch := .noted _ _ _
    exact (hfetch.adapt Error.session).map fun _ _ hrow => congrArg some hrow

theorem mirrors_all : Mirrors Eq result.watched.all result.all := by
  have hrows := mirrors_watchedRows result.rows 0
  change Mirrors Eq ((watchedRows 0 result.rows).mapM Action.carried) (result.rows.mapM Action.carried)
  generalize watchedRows 0 result.rows = fetches at hrows ⊢
  generalize result.rows = fetches' at hrows ⊢
  induction hrows with
  | nil => exact .pure rfl
  | cons hfetch _ ih =>
    rw [List.mapM_cons, List.mapM_cons]
    refine (hfetch.adapt Error.session).bind fun row row' hrow => ih.bind fun others others' hothers => .pure ?_
    rw [hrow, hothers]

theorem mirrors_one : Mirrors Eq result.watched.one result.one := by
  obtain ⟨text, rows⟩ := result
  have hfetch (place : Nat) (fetch : Action ω Failure ρ) :
      Mirrors Eq (noted (.fetch place) Reply.row fetch).carried fetch.carried :=
    .adapt Error.session (.noted _ _ _)
  match rows with
  | [] => exact .throw _
  | [only] => exact hfetch 0 only
  | first :: second :: _ => exact (hfetch 0 first).bind fun _ _ _ => (hfetch 1 second).bind fun _ _ _ => .throw _

end mirrors

theorem mirrors_lookUp (b : Backend ω ρ) (entityType : String) (id : Identifier) :
    Mirrors Eq (b.watched.lookUp entityType id) (b.lookUp entityType id) := by
  refine (mirrors_query b _ none).bind ?_
  rintro _ result rfl
  exact (mirrors_first result).adapt Failure.internal

theorem mirrors_findOrCreate (b : Backend ω ρ) (entityType : String) (values : List (String × Value)) :
    Mirrors Eq (b.watched.findOrCreate entityType values) (b.findOrCreate entityType values) := by
  have htext : Mirrors Eq (Action.reported (.ofExcept (Backend.matchText entityType values)) :
        Action (Watched ω ρ) Failure String)
      (Action.reported (.ofExcept (Backend.matchText entityType values))) := by
    cases Backend.matchText entityType values with
    | ok text => exact .pure rfl
    | error e => exact .throw _
  refine htext.bind ?_
  rintro text _ rfl
  refine (mirrors_query b text none).bind ?_
  rintro _ result rfl
  refine ((mirrors_first result).adapt Failure.internal).bind ?_
  rintro found _ rfl
  cases found with
  | some row => exact .pure rfl
  | none => exact .noted _ _ _

theorem Mirrors.orNone {a : Action (Watched ω ρ) Error ρ} {a' : Action ω Error ρ} (h : Mirrors Eq a a') :
    Mirrors Eq (Select.orNone a) (Select.orNone a') := by
  intro s
  rw [Select.outcome_orNone, Select.outcome_orNone, h.outcome_eq s]
  refine ⟨?_, rfl⟩
  cases Select.orNoneResult (a.outcome s).1 with
  | ok x => exact .ok rfl
  | error e => exact .error e

theorem mirrors_execute_bind (s : Select σ) (b : Backend ω ρ)
    {take : QueryResult (Watched ω ρ) ρ → Action (Watched ω ρ) Error α} {take' : QueryResult ω ρ → Action ω Error α}
    (htake : ∀ result : QueryResult ω ρ, Mirrors Eq (take result.watched) (take' result)) :
    Mirrors Eq (do take (← Select.execute (s.bind b.watched.withLookups)))
      (do take' (← Select.execute (s.bind b.withLookups))) := by
  have hexecute : Mirrors (fun x y => x = y.watched) (Select.execute (s.bind b.watched.withLookups))
      (Select.execute (s.bind b.withLookups)) := .adapt Error.session (mirrors_query b s.text _)
  refine hexecute.bind ?_
  rintro _ result rfl
  exact htake result

theorem Select.mirrors_byPrimaryKey (s : Select σ) (v : Value) {session' : Session (Watched ω ρ) ρ}
    {session : Session ω ρ} (h : session'.toBackend = session.toBackend.watched) :
    Mirrors Eq (Select.byPrimaryKey (s.bind session') v) (Select.byPrimaryKey (s.bind session) v) := by
  obtain ⟨backend', get, ensure⟩ := session'
  obtain rfl : backend' = session.toBackend.watched := h
  rw [Select.byPrimaryKey, Select.byPrimaryKey, RowStatement.entityType_bind, RowStatement.entityType_bind]
  cases primaryKey? s.entityType with
  | none => exact .throw _
  | some key =>
    dsimp only
    rw [RowStatement.filter_bind, RowStatement.filter_bind]
    exact .orNone (mirrors_execute_bind _ session.toBackend mirrors_one)

theorem Mirrors.discard {R : α → β → Prop} {a : Action (Watched ω ρ) ε α} {a' : Action ω ε β} (h : Mirrors R a a') :
    Mirrors Eq (discard a : Action (Watched ω ρ) ε Unit) (discard a') := h.map fun _ _ _ => rfl

theorem Statement.mirrors_executeIn (s : Statement σ) (b : Backend ω ρ) :
    Mirrors Eq (discard (s.executeIn b.watched.withLookups) : Action (Watched ω ρ) Error Unit)
      (discard (s.executeIn b.withLookups)) := by
  have hmap {α β : Type} {R : α → β → Prop} {a : Action (Watched ω ρ) Error α} {a' : Action ω Error β}
      {g : α → Outcome (Watched ω ρ) ρ} {g' : β → Outcome ω ρ} (h : Mirrors R a a') :
      Mirrors Eq (Functor.discard (g <$> a) : Action (Watched ω ρ) Error Unit) (Functor.discard (g' <$> a')) :=
    (h.map (S := fun _ _ => True) fun _ _ _ => trivial).discard
  cases s with
  | select s => exact hmap ((mirrors_query b s.text _).adapt Error.session)
  | insert s => exact hmap (R := Eq) (.adapt Error.session (.noted _ _ _))
  | update s => exact hmap ((BulkStatement.update s).mirrors_executeIn b.withLookups)
  | delete s => exact hmap ((BulkStatement.delete s).mirrors_executeIn b.withLookups)

theorem Operation.mirrors_run (op : Operation σ) (b : Backend ω ρ) :
    Mirrors Eq (op.run b.watched.withLookups) (op.run b.withLookups) := by
  cases op with
  | execute s =>
    rw [run, run, Statement.execute_bind, Statement.execute_bind]
    exact s.mirrors_executeIn b
  | executeIn s => exact s.mirrors_executeIn b
  | one s => exact (mirrors_execute_bind s b mirrors_one).discard
  | first s => exact (mirrors_execute_bind s b mirrors_first).discard
  | all s => exact (mirrors_execute_bind s b mirrors_all).discard
  | count s => exact ((mirrors_execute_bind s b mirrors_all).map fun _ _ hrows => congrArg List.length hrows).discard
  | get s id => exact ((mirrors_lookUp b s.entityType id).adapt Error.session).discard
  | ensure s pairs => exact ((mirrors_findOrCreate b s.entityType _).adapt Error.session).discard
  | byPrimaryKey s v => exact (Select.mirrors_byPrimaryKey s v rfl).discard

end EntityQuery
