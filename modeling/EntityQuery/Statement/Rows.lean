import EntityQuery.Criterion
import EntityQuery.Expr.Render

/-!
# Statements over rows

Select, update and delete work on the rows that their clauses describe. They share one structure,
`RowStatement`, and its builders, and differ in the effect they have on each row.

Every builder returns a new statement. One that can fail returns an error in its place, so the
statement it was applied to stays as it was.
-/

namespace EntityQuery

/-- A statement over the rows that the clauses describe. `ε` is what is done to each row, `σ` the
type of session the statement can be bound to. -/
structure RowStatement (ε σ : Type) where
  clauses : Clauses
  effect : ε
  /-- Rows fetched in one go, if the statement says so. -/
  pageSize : Option UInt32 := none
  session : Option σ := none

/-- Choices for a run that do not show in the statement's text. -/
structure RunOptions where
  pageSize : Option UInt32 := none
  /-- For a delete: whether components are removed from their locations first. -/
  componentsFirst : Option Bool := none

namespace RowStatement

variable {ε σ : Type}

def entityType (s : RowStatement ε σ) : String := s.clauses.entityType

/-- Adds a condition, unless it places no constraint. -/
def filter (s : RowStatement ε σ) (e : Expr) : RowStatement ε σ :=
  if e.isEmpty then s
  else { s with clauses := { s.clauses with filters := s.clauses.filters ++ [e] } }

def filterBy (s : RowStatement ε σ) (items : List Criterion) : Except Error (RowStatement ε σ) :=
  (Expr.allOf items).map s.filter

def sortBy (s : RowStatement ε σ) (key : SortKey) : RowStatement ε σ :=
  { s with clauses := { s.clauses with sort := s.clauses.sort ++ [key] } }

def sort (s : RowStatement ε σ) (key : String) : Except Error (RowStatement ε σ) :=
  (SortKey.read key).map s.sortBy

def clearSort (s : RowStatement ε σ) : RowStatement ε σ :=
  { s with clauses := { s.clauses with sort := [] } }

def reverse (s : RowStatement ε σ) : RowStatement ε σ :=
  { s with clauses := { s.clauses with sort := s.clauses.sort.map SortKey.reversed } }

def offset (s : RowStatement ε σ) (n : UInt64) : RowStatement ε σ :=
  { s with clauses := { s.clauses with offset := n } }

def limit (s : RowStatement ε σ) (n : UInt64) : RowStatement ε σ :=
  { s with clauses := { s.clauses with limit := some n } }

def clearLimit (s : RowStatement ε σ) : RowStatement ε σ :=
  { s with clauses := { s.clauses with limit := none } }

def withPageSize (s : RowStatement ε σ) (n : UInt32) : RowStatement ε σ :=
  { s with pageSize := some n }

def options (s : RowStatement ε σ) (o : RunOptions) : RowStatement ε σ :=
  { s with pageSize := o.pageSize.or s.pageSize }

def bind {τ : Type} (s : RowStatement ε σ) (session : τ) : RowStatement ε τ :=
  { s with session := some session }

def unbind (s : RowStatement ε σ) : RowStatement ε σ := { s with session := none }

/-- The same text and the same page size. -/
def equalBy (text : RowStatement ε σ → String) (s t : RowStatement ε σ) : Bool :=
  text s == text t && s.pageSize == t.pageSize

end RowStatement

end EntityQuery
