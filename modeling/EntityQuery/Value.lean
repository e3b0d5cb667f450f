import EntityQuery.Number.Decimal

/-!
# Values

What can stand on the right-hand side of a predicate or be assigned to a field. Integers, floats
and exact decimals stay apart, so that each is written in its own form. `=` is identity; `==`
compares numbers as numbers, so a float that is no number differs from itself, the two zeros are
equal, and so are `1.5` and `1.50`.
-/

namespace EntityQuery

open Number

inductive Identifier where
  | text (id : String)
  | integer (id : Int64)
  deriving DecidableEq

def Identifier.toText : Identifier → String
  | text id => id
  | integer id => toString id.toInt

/-- An entity that is known by its identifier and, perhaps, its type. -/
structure EntityRef where
  entityType : Option String
  id : Identifier
  deriving DecidableEq

/-- The entity as messages show it, `<Task(7)>`. -/
def EntityRef.toText (e : EntityRef) : String :=
  "<" ++ e.entityType.getD "Entity" ++ "(" ++ e.id.toText ++ ")>"

/-- The right-hand side of a predicate, or the content of a field. -/
inductive Value where
  | null
  | boolean (b : Bool)
  | integer (n : Int64)
  | float (x : Binary64)
  | decimal (d : Decimal)
  | text (s : String)
  | entity (e : EntityRef)
  deriving DecidableEq

namespace Value

def isNull : Value → Bool
  | null => true
  | _ => false

def entity? : Value → Option EntityRef
  | entity e => some e
  | _ => none

def isEntity (v : Value) : Bool := v.entity?.isSome

def ofIdentifier : Identifier → Value
  | .text id => text id
  | .integer id => integer id

/-- Equality with numbers compared as numbers. -/
def equal : Value → Value → Bool
  | null, null => true
  | boolean a, boolean b => a == b
  | integer a, integer b => a == b
  | float a, float b => a == b
  | decimal a, decimal b => a == b
  | text a, text b => a == b
  | entity a, entity b => a == b
  | _, _ => false

instance : BEq Value := ⟨equal⟩

theorem isEntity_iff {v : Value} : v.isEntity = true ↔ ∃ e, v = entity e := by
  cases v <;> simp [isEntity, entity?]

end Value

end EntityQuery
