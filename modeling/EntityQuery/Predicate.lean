import EntityQuery.Expr

/-!
# Predicates

Conditions on the attribute at the end of a path. A comparison with an entity becomes one of
identifiers, and the derived patterns (`startsWith`, `endsWith`, `contains`) match their text literally.
-/

namespace EntityQuery.Path

/-- The attribute compared with a value. An entity is compared by its identifier, found one step
further along the path. -/
def compare (p : Path) (op : Comparison) : Value → Expr
  | .entity e => .compare p.identifier op (.ofIdentifier e.id)
  | v => .compare p op v

def is (p : Path) (v : Value) : Expr := p.compare .equal v

def like (p : Path) (pattern : String) : Expr := p.compare .like (.text pattern)

def startsWith (p : Path) (start : String) : Expr :=
  p.like (Literal.escapeWildcards start ++ "%")

def endsWith (p : Path) (ending : String) : Expr :=
  p.like ("%" ++ Literal.escapeWildcards ending)

def contains (p : Path) (part : String) : Expr :=
  p.like ("%" ++ Literal.escapeWildcards part ++ "%")

/-- What a path means when it is called with a value. -/
inductive Invocation where
  | filter (condition : Expr)
  | sort (key : SortKey)

/-- A path that ends in a direction word is a sort key; any other is compared with the value. -/
def invoke (p : Path) (v : Value) : Invocation :=
  match p.sortKey? with
  | some key => .sort key
  | none => .filter (p.is v)

theorem compare_of_not_entity (p : Path) (op : Comparison) {v : Value}
    (h : v.isEntity = false) : p.compare op v = .compare p op v := by
  cases v <;> first | rfl | simp [Value.isEntity, Value.entity?] at h

end EntityQuery.Path
