import EntityQuery.Fields

/-!
# Insert

The statement that makes one entity of a type, with field values.
-/

namespace EntityQuery

structure Insert (σ : Type) where
  entityType : String
  values : FieldValues := {}
  session : Option σ := none

namespace Insert

variable {σ : Type}

def ofType (entityType : String) : Insert σ := { entityType }

def assign (s : Insert σ) (pairs : List (String × Value)) : Insert σ :=
  { s with values := s.values.extend pairs }

def bind {τ : Type} (s : Insert σ) (session : τ) : Insert τ :=
  { s with session := some session }

def unbind (s : Insert σ) : Insert σ := { s with session := none }

def text (s : Insert σ) : String := "create " ++ s.entityType ++ "(" ++ s.values.text ++ ")"

/-- The same entity type and equal field values. -/
def equal (s t : Insert σ) : Bool := s.entityType == t.entityType && s.values == t.values

end Insert

end EntityQuery
