import EntityQuery.Statement.Rows

/-!
# Select

The statement that fetches rows. Its text starts with the attributes to fetch, if there are any.
-/

namespace EntityQuery

abbrev Select (σ : Type) := RowStatement Unit σ

/-- The entity type of a text `Type.field`, and the field; a text without a dot is a type alone. -/
def splitTypePath (path : String) : String × Option String :=
  let cs := path.toList
  (String.ofList (cs.takeWhile (· != '.')),
    match cs.dropWhile (· != '.') with
    | [] => none
    | _ :: field => some (String.ofList field))

namespace Select

variable {σ : Type}

def ofType (entityType : String) : Select σ where
  clauses := { entityType }
  effect := ()

/-- Fetches these attributes too; empty names are ignored. -/
def populate (s : Select σ) (attributes : List String) : Select σ :=
  { s with clauses :=
    { s.clauses with projection := s.clauses.projection ++ attributes.filter (!·.isEmpty) } }

def groupBy (s : Select σ) (attributes : List String) : Select σ :=
  { s with clauses :=
    { s.clauses with groupBy := s.clauses.groupBy ++ attributes.filter (!·.isEmpty) } }

def ofPath (path : String) : Select σ :=
  let (entityType, field) := splitTypePath path
  (ofType entityType).populate field.toList

def otherType? (expected : String) (paths : List String) : Option String :=
  (paths.map fun path => (splitTypePath path).1).find? (· != expected)

def ofPaths (paths : List String) : Except Error (Select σ) :=
  let entityType := (paths.head?.map fun path => (splitTypePath path).1).getD ""
  match otherType? entityType paths with
  | some other => .error (.mixedEntityTypes entityType other)
  | none => .ok ((ofType entityType).populate (paths.filterMap fun path => (splitTypePath path).2))

def asSubquery (s : Select σ) : Select σ := { s with clauses := s.clauses.asSubquery }

/-- Rows of either select: the first select with the two conditions as alternatives. A side without
a condition has every row, so nothing is left to test. -/
def union (s t : Select σ) : Select σ :=
  let left := s.clauses.predicate
  let right := t.clauses.predicate
  let filters := if left.isEmpty || right.isEmpty then [] else [.any [left, right]]
  { s with clauses := { s.clauses with filters } }

theorem filters_union (s t : Select σ) : (s.union t).clauses.filters =
    if s.clauses.predicate.isEmpty || t.clauses.predicate.isEmpty then []
    else [.any [s.clauses.predicate, t.clauses.predicate]] := rfl

def text (s : Select σ) : String := s.clauses.text true

def equal (s t : Select σ) : Bool := s.equalBy text t

end Select

end EntityQuery
