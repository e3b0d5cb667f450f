import EntityQuery.Statement.Rows

/-!
# Update and delete

The statements that change every row they match. They neither fetch attributes nor group rows, so
`populate` and `groupBy` are refused. `queryText` is the query for the rows, `text` what is shown.
-/

namespace EntityQuery

abbrev Update (σ : Type) := RowStatement FieldValues σ

namespace Update

variable {σ : Type}

def ofType (entityType : String) : Update σ where
  clauses := { entityType }
  effect := {}

def values (s : Update σ) (pairs : List (String × Value)) : Update σ :=
  { s with effect := s.effect.extend pairs }

def populate (_ : Update σ) (_ : List String) : Except Error (Update σ) :=
  .error (.projectionNotAllowed .update)

def groupBy (_ : Update σ) (_ : List String) : Except Error (Update σ) :=
  .error (.groupingNotAllowed .update)

def queryText (s : Update σ) : String := s.clauses.text false

def text (s : Update σ) : String := "update " ++ s.queryText ++ " set (" ++ s.effect.text ++ ")"

def equal (s t : Update σ) : Bool := s.equalBy text t

end Update

structure Removal where
  /-- Whether components are removed from their locations first. -/
  componentsFirst : Bool := false
  deriving DecidableEq

abbrev Delete (σ : Type) := RowStatement Removal σ

/-- The relation that is fetched when components are to be removed from their locations. -/
def componentLocations : String := "component_locations.location"

namespace Delete

variable {σ : Type}

def ofType (entityType : String) : Delete σ where
  clauses := { entityType }
  effect := {}

def populate (_ : Delete σ) (_ : List String) : Except Error (Delete σ) :=
  .error (.projectionNotAllowed .delete)

def groupBy (_ : Delete σ) (_ : List String) : Except Error (Delete σ) :=
  .error (.groupingNotAllowed .delete)

/-- Removes components from their locations before deleting them, or not. -/
def componentsFirst (s : Delete σ) (first : Bool) : Delete σ := { s with effect := ⟨first⟩ }

/-- Page size and removal of components, each if the options have it. -/
def options (s : Delete σ) (o : RunOptions) : Delete σ :=
  { s with
    pageSize := o.pageSize.or s.pageSize
    effect := ⟨o.componentsFirst.getD s.effect.componentsFirst⟩ }

def queryText (s : Delete σ) : String :=
  if s.effect.componentsFirst then
    Clauses.text true { s.clauses with projection := [componentLocations] }
  else s.clauses.text false

def text (s : Delete σ) : String := "delete " ++ s.clauses.text false

def equal (s t : Delete σ) : Bool := s.equalBy text t

end Delete

end EntityQuery
