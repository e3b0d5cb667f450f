import EntityQuery.Expr

/-!
# Equality of expressions

`==` compares trees node by node, with numbers compared as numbers. It is coarser than identity on
zeros and decimals and finer on what is no number.
-/

namespace EntityQuery

def valuesEqual : List Value → List Value → Bool
  | [], [] => true
  | v :: vs, w :: ws => v == w && valuesEqual vs ws
  | _, _ => false

mutual

def Expr.equal : Expr → Expr → Bool
  | .compare p o v, .compare q u w => p == q && o == u && v == w
  | .related p o c, .related q u d => p == q && o == u && c.equal d
  | .member p o m, .member q u n => p == q && o == u && m.equal n
  | .and ts, .and us => Expr.equalEach ts us
  | .or ts, .or us => Expr.equalEach ts us
  | .not t, .not u => t.equal u
  | .raw t, .raw u => t == u
  | _, _ => false

def Expr.equalEach : List Expr → List Expr → Bool
  | [], [] => true
  | t :: ts, u :: us => t.equal u && Expr.equalEach ts us
  | _, _ => false

def Members.equal : Members → Members → Bool
  | .values vs, .values ws => valuesEqual vs ws
  | .subquery c, .subquery d => c.equal d
  | _, _ => false

def Clauses.equal : Clauses → Clauses → Bool
  | ⟨entityType, filters, projection, groupBy, sort, offset, limit⟩, d =>
    entityType == d.entityType && Expr.equalEach filters d.filters && projection == d.projection &&
      groupBy == d.groupBy && sort == d.sort && offset == d.offset && limit == d.limit

end

instance : BEq Expr := ⟨Expr.equal⟩

instance : BEq Members := ⟨Members.equal⟩

instance : BEq Clauses := ⟨Clauses.equal⟩

end EntityQuery
