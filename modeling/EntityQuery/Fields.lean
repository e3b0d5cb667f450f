import EntityQuery.Literal

/-!
# Named fields

Lists of pairs in which a later value for a key takes the place of an earlier one: `assign` keeps keys
in the order in which they first came, `insertSorted` keeps them in the order of their code points.
`FieldValues` holds what an insert or update assigns.
-/

namespace EntityQuery

namespace Fields

variable {α : Type}

/-- Gives the key this value: in the place where the key is, else at the end. -/
def assign (key : String) (x : α) : List (String × α) → List (String × α)
  | [] => [(key, x)]
  | (k, y) :: rest => if k = key then (k, x) :: rest else (k, y) :: assign key x rest

def assignAll (fields pairs : List (String × α)) : List (String × α) :=
  pairs.foldl (fun fields (key, x) => assign key x fields) fields

def insertSorted (key : String) (x : α) : List (String × α) → List (String × α)
  | [] => [(key, x)]
  | (k, y) :: rest =>
    if key < k then (key, x) :: (k, y) :: rest
    else if key = k then (key, x) :: rest
    else (k, y) :: insertSorted key x rest

/-- The pairs sorted by key; of equal keys the last pair stays. -/
def sorted (pairs : List (String × α)) : List (String × α) :=
  pairs.foldl (fun fields (key, x) => insertSorted key x fields) []

def lookup? (key : String) (fields : List (String × α)) : Option α :=
  (fields.find? (·.1 == key)).map (·.2)

theorem assignAll_append (fields ps qs : List (String × α)) :
    assignAll fields (ps ++ qs) = assignAll (assignAll fields ps) qs := by
  simp [assignAll]

end Fields

/-- What an insert or update assigns, each field once. -/
structure FieldValues where
  fields : List (String × Value) := []

namespace FieldValues

def extend (values : FieldValues) (pairs : List (String × Value)) : FieldValues :=
  ⟨Fields.assignAll values.fields pairs⟩

def ofList (pairs : List (String × Value)) : FieldValues := extend {} pairs

/-- Assignments between commas, `name="abc", version=3`. -/
def text (values : FieldValues) : String :=
  ", ".intercalate (values.fields.map fun (key, v) => key ++ "=" ++ Literal.encode v)

/-- Equal fields in the same order, with numbers compared as numbers. -/
def equal (a b : FieldValues) : Bool := a.fields == b.fields

instance : BEq FieldValues := ⟨equal⟩

theorem extend_append (values : FieldValues) (ps qs : List (String × Value)) :
    values.extend (ps ++ qs) = (values.extend ps).extend qs := by
  simp [extend, Fields.assignAll_append]

end FieldValues

end EntityQuery
