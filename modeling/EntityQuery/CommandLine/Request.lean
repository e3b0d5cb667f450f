import EntityQuery.CommandLine.Input
import EntityQuery.Statement

/-!
# Requests

The statement that a set of command line arguments asks for. The arguments are read in the order
filters, sort keys, JSON object, assignments, and the first that cannot be read is the error.
-/

namespace EntityQuery.CommandLine

inductive Command where
  | select
  | create
  | update
  | delete
  deriving DecidableEq

/-- Everything that can be asked for. What does not concern the command is ignored. -/
structure Request where
  command : Command := .select
  /-- An entity type; for a select perhaps with a field to fetch. -/
  entity : String
  filters : List String := []
  populate : List String := []
  groupBy : List String := []
  sort : List String := []
  offset : Option UInt64 := none
  limit : Option UInt64 := none
  /-- Assignments, `key=value`. -/
  assignments : List String := []
  /-- Field values as a JSON object. -/
  object : Option String := none
  pageSize : Option UInt32 := none
  componentsFirst : Bool := false

namespace Request

variable {ε σ : Type}

def conditions (r : Request) : Except Error (List Expr) := r.filters.mapM readFilter

def options (r : Request) : RunOptions := ⟨r.pageSize, some r.componentsFirst⟩

/-- The statement with the filters and then the sort keys of the request. -/
def narrow (r : Request) (s : RowStatement ε σ) : Except Error (RowStatement ε σ) := do
  let conditions ← r.conditions
  let s ← s.filterBy (conditions.map .expr)
  r.sort.foldlM RowStatement.sort s

def page (r : Request) (s : RowStatement ε σ) : RowStatement ε σ :=
  let s := match r.offset with
    | some n => s.offset n
    | none => s
  match r.limit with
  | some n => s.limit n
  | none => s

/-- The field values: those of the object, then the assignments. -/
def fieldValues (r : Request) : Except RequestError (List (String × Value)) := do
  let members ← match r.object with
    | some json => readObject json
    | none => .ok []
  let assigned ← r.assignments.mapM readAssignment
  return members ++ assigned

def statement (r : Request) : Except RequestError (Statement σ) :=
  match r.command with
  | .select => do
    let s := ((Select.ofPath r.entity : Select σ).populate r.populate).groupBy r.groupBy
    let s ← (r.narrow s).mapError .query
    return .select ((r.page s).options r.options)
  | .create => do
    return .insert ((Insert.ofType r.entity).assign (← r.fieldValues))
  | .update => do
    let s ← (r.narrow (Update.ofType r.entity)).mapError .query
    let pairs ← r.fieldValues
    return .update (Update.values ((r.page s).options r.options) pairs)
  | .delete => do
    let s ← (r.narrow (Delete.ofType r.entity)).mapError .query
    return .delete (Delete.options (r.page s) r.options)

def text (r : Request) : Except RequestError String :=
  (r.statement : Except RequestError (Statement Empty)).map Statement.text

end Request

end EntityQuery.CommandLine
