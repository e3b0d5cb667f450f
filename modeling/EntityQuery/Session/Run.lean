import EntityQuery.Session

/-!
# Running statements

A select hands its text to the session; an insert hands over its values; an update and a delete
query for their rows and then work through them one by one, each row finished before the next is
fetched, while automatic fetching is off. A failure ends the run where it happens.
-/

namespace EntityQuery

variable {ω ρ : Type}

def bound {σ : Type} : Option σ → Action ω Error σ
  | some session => pure session
  | none => throw .unboundSession

/-- The page size of a statement in a session: its own, else the session's. -/
def RowStatement.effectivePageSize {ε σ : Type} (s : RowStatement ε σ) (b : Backend ω ρ) :
    Option UInt32 :=
  s.pageSize.or b.pageSize

/-- Fetches row after row, doing the work for each before the next, and counts the rows. -/
def forEachRow (work : ρ → Action ω Failure Unit) : List (Action ω Failure ρ) → Action ω Failure Nat
  | [] => pure 0
  | fetch :: rest => do
    let row ← fetch
    work row
    return (← forEachRow work rest) + 1

/-- Queries for rows and works through them with automatic fetching off. -/
def Backend.forEachMatch (b : Backend ω ρ) (text : String) (pageSize : Option UInt32)
    (work : ρ → Action ω Failure Unit) : Action ω Error Nat :=
  b.withoutAutoPopulate <| Action.carried do
    let result ← b.query text pageSize
    forEachRow work result.rows

namespace Select

def executeIn {σ : Type} (s : Select σ) (session : Session ω ρ) :
    Action ω Error (QueryResult ω ρ) :=
  (session.query s.text (s.effectivePageSize session.toBackend)).carried

def execute (s : Select (Session ω ρ)) : Action ω Error (QueryResult ω ρ) := do
  s.executeIn (← bound s.session)

def one (s : Select (Session ω ρ)) : Action ω Error ρ := do (← s.execute).one

def first (s : Select (Session ω ρ)) : Action ω Error (Option ρ) := do (← s.execute).first

def all (s : Select (Session ω ρ)) : Action ω Error (List ρ) := do (← s.execute).all

/-- The number of rows, each of which is fetched. -/
def count (s : Select (Session ω ρ)) : Action ω Error Nat := return (← s.all).length

/-- The entity of this type with an identifier, whatever the select's other clauses. -/
def get (s : Select (Session ω ρ)) (id : Identifier) : Action ω Error (Option ρ) := do
  ((← bound s.session).get s.entityType id).carried

def ensure (s : Select (Session ω ρ)) (pairs : List (String × Value)) : Action ω Error ρ := do
  ((← bound s.session).ensure s.entityType (FieldValues.ofList pairs).fields).carried

def orNone (a : Action ω Error ρ) : Action ω Error (Option ρ) :=
  tryCatch (some <$> a) fun
    | .noResultFound _ => pure none
    | e => throw e

/-- The only entity that also has this value in the unique field of its type, if there is one. -/
def byPrimaryKey (s : Select (Session ω ρ)) (v : Value) : Action ω Error (Option ρ) :=
  match primaryKey? s.entityType with
  | none => throw (.noPrimaryKey s.entityType)
  | some key => orNone (one (s.filter ((Path.ofText key).is v)))

end Select

namespace Insert

def executeIn {σ : Type} (s : Insert σ) (session : Session ω ρ) : Action ω Error ρ :=
  (session.create s.entityType s.values.fields).carried

def execute (s : Insert (Session ω ρ)) : Action ω Error ρ := do
  s.executeIn (← bound s.session)

end Insert

namespace Update

def assignRow (b : Backend ω ρ) (values : FieldValues) (row : ρ) : Action ω Failure Unit :=
  values.fields.forM fun (key, v) => b.assign row key v

def executeIn {σ : Type} (s : Update σ) (session : Session ω ρ) : Action ω Error Nat :=
  session.forEachMatch s.queryText (s.effectivePageSize session.toBackend)
    (assignRow session.toBackend s.effect)

def execute (s : Update (Session ω ρ)) : Action ω Error Nat := do
  s.executeIn (← bound s.session)

end Update

namespace Delete

/-- Deletes one row, its components first removed from their locations if that is asked for. -/
def deleteRow (b : Backend ω ρ) (removal : Removal) (row : ρ) : Action ω Failure Unit := do
  if removal.componentsFirst then b.removeComponents row
  b.deleteEntity row

def executeIn {σ : Type} (s : Delete σ) (session : Session ω ρ) : Action ω Error Nat :=
  session.forEachMatch s.queryText (s.effectivePageSize session.toBackend)
    (deleteRow session.toBackend s.effect)

def execute (s : Delete (Session ω ρ)) : Action ω Error Nat := do
  s.executeIn (← bound s.session)

end Delete

inductive Outcome (ω ρ : Type) where
  | rows (result : QueryResult ω ρ)
  | created (row : ρ)
  /-- The number of rows changed or deleted. -/
  | count (n : Nat)

namespace Statement

def executeIn {σ : Type} (s : Statement σ) (session : Session ω ρ) :
    Action ω Error (Outcome ω ρ) :=
  match s with
  | select s => .rows <$> s.executeIn session
  | insert s => .created <$> s.executeIn session
  | update s => .count <$> s.executeIn session
  | delete s => .count <$> s.executeIn session

def execute (s : Statement (Session ω ρ)) : Action ω Error (Outcome ω ρ) := do
  s.executeIn (← bound s.session)

end Statement

/-! ## Statements of a session -/

namespace Session

def select (session : Session ω ρ) (path : String) : Select (Session ω ρ) :=
  (Select.ofPath path : Select (Session ω ρ)).bind session

def insert (session : Session ω ρ) (entityType : String) : Insert (Session ω ρ) :=
  (Insert.ofType entityType : Insert (Session ω ρ)).bind session

def update (session : Session ω ρ) (entityType : String) : Update (Session ω ρ) :=
  (Update.ofType entityType : Update (Session ω ρ)).bind session

def delete (session : Session ω ρ) (entityType : String) : Delete (Session ω ρ) :=
  (Delete.ofType entityType : Delete (Session ω ρ)).bind session

end Session

end EntityQuery
