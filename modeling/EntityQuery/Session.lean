import EntityQuery.Statement

/-!
# Sessions

The boundary to whatever runs query text. A session acts on a world of its own: each of its calls is
an `Action`, which changes the world and returns a result or an error. Rows come lazily, as actions that
each fetch one row (`QueryResult`).

* `Backend`: the calls that every session has to answer.
* `Session`: a backend with lookups of one entity, for which `Backend.lookUp` and
  `Backend.findOrCreate` are the defaults.
* `Backend.withoutAutoPopulate`: runs an action while automatic fetching of attributes is off.
-/

namespace EntityQuery

/-- What changes a world `ω` and returns a result or an error. -/
abbrev Action (ω ε : Type) := ExceptT ε (StateM ω)

/-- The same action, its failures carried as session errors. -/
def Action.carried {ω α : Type} (a : Action ω Failure α) : Action ω Error α :=
  ExceptT.adapt Error.session a

/-- The same action, its errors reported as failures of the session. -/
def Action.reported {ω α : Type} (a : Action ω Error α) : Action ω Failure α :=
  ExceptT.adapt Failure.internal a

def Action.ofExcept {ω ε α : Type} (r : Except ε α) : Action ω ε α := ExceptT.mk (pure r)

/-- The rows of one query, each fetched when its action runs.

The rows are a stream that is asked for the next row again and again, and here they are the list of the fetches
that it would make. For one run at a time that is the same: a run that ends asks for finitely many rows, so it is
the run over the list of the fetches that it makes, and what holds of all lists holds of all runs that end. To ask
for a row after the last one only finds that there is none, which is no call of the session or of a row. -/
structure QueryResult (ω ρ : Type) where
  /-- The text of the query. -/
  query : String
  rows : List (Action ω Failure ρ)

namespace QueryResult

variable {ω ρ : Type}

/-- Exactly one row; a second one is fetched to see that there is none. -/
def one (r : QueryResult ω ρ) : Action ω Error ρ :=
  match r.rows with
  | [] => throw (.noResultFound r.query)
  | [only] => only.carried
  | first :: second :: _ => do
    let _ ← first.carried
    let _ ← second.carried
    throw (.multipleResultsFound r.query)

/-- The first row, if any; no other is fetched. -/
def first (r : QueryResult ω ρ) : Action ω Error (Option ρ) :=
  match r.rows with
  | [] => pure none
  | first :: _ => some <$> first.carried

def all (r : QueryResult ω ρ) : Action ω Error (List ρ) := r.rows.mapM Action.carried

end QueryResult

/-- The calls that every session answers. `ω` is the world they act on, `ρ` the handle of an
entity. -/
structure Backend (ω ρ : Type) where
  /-- Runs a query text, with the number of rows to fetch in one go. -/
  query : String → Option UInt32 → Action ω Failure (QueryResult ω ρ)
  /-- Makes an entity. -/
  create : String → List (String × Value) → Action ω Failure ρ
  deleteEntity : ρ → Action ω Failure Unit
  /-- Turns automatic fetching of attributes on or off and returns the previous setting. -/
  setAutoPopulate : Bool → StateM ω Bool
  /-- Removes a component from every location that holds it; by default there is nothing to do. -/
  removeComponents : ρ → Action ω Failure Unit := fun _ => pure ()
  /-- The number of rows to fetch in one go where a statement does not say. -/
  pageSize : Option UInt32 := none
  /-- Assigns a field of an entity. -/
  assign : ρ → String → Value → Action ω Failure Unit
  identifier : ρ → Identifier
  /-- The entity's type, if its handle knows it. -/
  entityType : ρ → Option String := fun _ => none
  /-- A field's value, if it can be read. -/
  read : ρ → String → StateM ω (Option Value) := fun _ _ => pure none

namespace Backend

variable {ω ρ α ε : Type}

def reference (b : Backend ω ρ) (row : ρ) : EntityRef := ⟨b.entityType row, b.identifier row⟩

def lookUpText (entityType : String) (id : Identifier) : String :=
  let byId := (Path.ofText Path.identifierField).is (.ofIdentifier id)
  Select.text (((Select.ofPath entityType : Select Empty)).filter byId)

def lookUp (b : Backend ω ρ) (entityType : String) (id : Identifier) :
    Action ω Failure (Option ρ) := do
  let rows ← b.query (lookUpText entityType id) none
  rows.first.reported

def matchText (entityType : String) (values : List (String × Value)) : Except Error String :=
  let criteria := values.map fun (key, v) => Criterion.field key (.value v)
  ((Select.ofPath entityType : Select Empty).filterBy criteria).map Select.text

/-- Finds the first entity with all the given values, through a query, or else makes it. -/
def findOrCreate (b : Backend ω ρ) (entityType : String) (values : List (String × Value)) :
    Action ω Failure ρ := do
  let text ← Action.reported (.ofExcept (matchText entityType values))
  let rows ← b.query text none
  match ← rows.first.reported with
  | some row => pure row
  | none => b.create entityType values

/-- Runs an action with automatic fetching off, and puts the previous setting back whatever the
outcome. -/
def withoutAutoPopulate (b : Backend ω ρ) (act : Action ω ε α) : Action ω ε α :=
  ExceptT.mk do
    let previous ← b.setAutoPopulate false
    let result ← act.run
    let _ ← b.setAutoPopulate previous
    pure result

end Backend

/-- A backend and its ways to look up one entity. -/
structure Session (ω ρ : Type) extends Backend ω ρ where
  /-- The entity of a type with an identifier. -/
  get : String → Identifier → Action ω Failure (Option ρ) := toBackend.lookUp
  /-- The entity of a type with all the given values, made if there is none. -/
  ensure : String → List (String × Value) → Action ω Failure ρ := toBackend.findOrCreate

end EntityQuery
