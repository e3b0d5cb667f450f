import EntityQuery.Session

/-!
# Scripted sessions

A session in memory that answers queries from a script and logs every call, for checking what a
statement asks of a session and how it takes a failure.

The world is a pool of entities and a list of prepared answers. Entities are shared: rows of
different queries may be the same entity, and an assignment through one shows in the other.
-/

namespace EntityQuery.Scripted

structure Entity where
  entityType : String
  id : Identifier
  /-- Sorted by name. -/
  fields : List (String × Value) := []
  /-- The fields that cannot be assigned. -/
  readOnly : List String := []

/-- A handle on the entity at a place in the pool. -/
structure Handle where
  place : Nat
  id : Identifier
  entityType : Option String

inductive Row where
  | entity (place : Nat)
  | failing (message : String)

inductive Answer where
  | rows (rows : List Row)
  | failing (message : String)

inductive Event where
  | query (text : String) (pageSize : Option UInt32) (autoPopulate : Bool)
  /-- A row was fetched; a failing one has no identifier. -/
  | row (id : Option Identifier)
  | create (entityType : String) (values : List (String × Value))
  | delete (id : Identifier)
  | removeComponents (id : Identifier)
  | autoPopulate (enabled : Bool)
  | assign (id : Identifier) (field : String) (value : Value)

structure Script where
  pageSize : Option UInt32 := none
  /-- Whether the session leaves out whatever has a default. -/
  minimal : Bool := false
  /-- With a message, every creation fails with it. -/
  failCreate : Option String := none
  /-- Messages with which deletions fail, by identifier. -/
  failDelete : List (String × String) := []
  /-- Messages with which removals of components fail, by identifier. -/
  failRemove : List (String × String) := []

structure World where
  entities : List Entity := []
  /-- Answers to the queries to come; the last one is used again and again. -/
  answers : List Answer := []
  /-- How many entities were created. -/
  created : Nat := 0
  autoPopulate : Bool := true
  log : List Event := []

abbrev Call := Action World Failure

def logged (e : Event) : StateM World Unit :=
  modify fun w => { w with log := w.log ++ [e] }

def failIf : Option String → Call Unit
  | some message => throw (.reported message)
  | none => pure ()

/-- The next prepared answer: none prepared means no rows. -/
def nextAnswer : StateM World Answer := do
  let w ← get
  match w.answers with
  | [] => pure (.rows [])
  | [last] => pure last
  | answer :: rest => do
    set { w with answers := rest }
    pure answer

variable (s : Script)

def handle (place : Nat) (e : Entity) : Handle :=
  ⟨place, e.id, if s.minimal then none else some e.entityType⟩

def fetch : Row → Call Handle
  | .failing message => do
    logged (.row none)
    throw (.reported message)
  | .entity place => do
    match (← get).entities[place]? with
    | some e => do
      logged (.row (some e.id))
      pure (handle s place e)
    | none => throw (.reported "no such entity")

def query (text : String) (pageSize : Option UInt32) : Call (QueryResult World Handle) := do
  logged (.query text pageSize (← get).autoPopulate)
  match ← nextAnswer with
  | .failing message => throw (.reported message)
  | .rows rows => pure ⟨text, rows.map (fetch s)⟩

def create (entityType : String) (values : List (String × Value)) : Call Handle := do
  logged (.create entityType values)
  failIf s.failCreate
  let w ← get
  let e : Entity :=
    { entityType, id := .text ("new" ++ toString w.created), fields := Fields.sorted values }
  set { w with entities := w.entities ++ [e], created := w.created + 1 }
  pure (handle s w.entities.length e)

def deleteEntity (row : Handle) : Call Unit := do
  logged (.delete row.id)
  failIf (Fields.lookup? row.id.toText s.failDelete)

def removeComponents (row : Handle) : Call Unit := do
  logged (.removeComponents row.id)
  failIf (Fields.lookup? row.id.toText s.failRemove)

def setAutoPopulate (enabled : Bool) : StateM World Bool := do
  logged (.autoPopulate enabled)
  let w ← get
  set { w with autoPopulate := enabled }
  pure w.autoPopulate

/-- Assigns a field, unless it is read-only. -/
def assign (row : Handle) (field : String) (v : Value) : Call Unit := do
  let w ← get
  match w.entities[row.place]? with
  | some e => do
    failIf (if e.readOnly.contains field then some (field ++ " is read only") else none)
    logged (.assign row.id field v)
    let e := { e with fields := Fields.insertSorted field v e.fields }
    modify fun w => { w with entities := w.entities.set row.place e }
  | none => throw (.reported "no such entity")

def read (row : Handle) (field : String) : StateM World (Option Value) :=
  return (← get).entities[row.place]?.bind fun e => Fields.lookup? field e.fields

/-- The backend that leaves out whatever has a default. -/
def minimalBackend : Backend World Handle where
  query := query s
  create := create s
  deleteEntity := deleteEntity s
  setAutoPopulate := setAutoPopulate
  assign := assign
  identifier := Handle.id

def backend : Backend World Handle :=
  if s.minimal then minimalBackend s
  else { minimalBackend s with
    removeComponents := removeComponents s
    pageSize := s.pageSize
    entityType := Handle.entityType
    read := read }

/-- The session of a script, with the default lookups. -/
def session : Session World Handle := { backend s with }

end EntityQuery.Scripted
