import EntityQuery.Statement.Bulk
import EntityQuery.Statement.Insert
import EntityQuery.Statement.Select

/-!
# Statements

A statement of any of the four kinds, and the unique fields by which entities can be looked up.
-/

namespace EntityQuery

inductive Statement (σ : Type) where
  | select (s : Select σ)
  | insert (s : Insert σ)
  | update (s : Update σ)
  | delete (s : Delete σ)

namespace Statement

variable {σ : Type}

def session : Statement σ → Option σ
  | select s => s.session
  | insert s => s.session
  | update s => s.session
  | delete s => s.session

def bind {τ : Type} (session : τ) : Statement σ → Statement τ
  | select s => select (s.bind session)
  | insert s => insert (s.bind session)
  | update s => update (s.bind session)
  | delete s => delete (s.bind session)

def unbind : Statement σ → Statement σ
  | select s => select s.unbind
  | insert s => insert s.unbind
  | update s => update s.unbind
  | delete s => delete s.unbind

def text : Statement σ → String
  | select s => s.text
  | insert s => s.text
  | update s => s.text
  | delete s => s.text

/-- Equality of statements of one kind; statements of different kinds differ. -/
def equal : Statement σ → Statement σ → Bool
  | select s, select t => s.equal t
  | insert s, insert t => s.equal t
  | update s, update t => s.equal t
  | delete s, delete t => s.equal t
  | _, _ => false

instance : BEq (Statement σ) := ⟨equal⟩

end Statement

/-- Entity types with a unique field beside the identifier, and that field. -/
def primaryKeys : List (String × String) :=
  [("Disk", "name"), ("Location", "name"), ("NoteLabel", "name"), ("Priority", "name"),
    ("Project", "name"), ("ProjectSchema", "name"), ("SecurityRole", "name"), ("Setting", "name"),
    ("State", "name"), ("Status", "name"), ("Type", "name"), ("User", "username")]

def primaryKey? (entityType : String) : Option String := Fields.lookup? entityType primaryKeys

end EntityQuery
