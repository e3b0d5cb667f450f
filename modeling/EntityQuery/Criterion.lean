import EntityQuery.Predicate
import EntityQuery.Fields

/-!
# Criteria

The inputs of the combinators: expressions, query text, equalities by name, or nothing at all.
`Criterion.exprs` turns a list of them into expressions and fails at the first that cannot be one;
on it rest the combinators (`Expr.allOf`, `Expr.anyOf`, `Expr.noneOf`) and the relationship and
membership tests (`Path.relate`, `Path.member`).
-/

namespace EntityQuery

/-- A value or a subquery, where a test could take either. -/
inductive Operand where
  | value (v : Value)
  | subquery (clauses : Clauses)

def Operand.value? : Operand → Option Value
  | value v => some v
  | subquery _ => none

def Operand.subquery? : Operand → Option Clauses
  | value _ => none
  | subquery c => some c

inductive Criterion where
  | expr (e : Expr)
  /-- Query text that is taken as it is. -/
  | raw (text : String)
  /-- Equality between the attribute of this name and an operand. -/
  | field (key : String) (operand : Operand)
  /-- Equalities, in order. -/
  | fields (pairs : List (String × Operand))
  /-- An entity without an attribute to compare with it; never accepted. -/
  | entity (e : EntityRef)
  /-- No constraint. -/
  | skip

namespace Criterion

/-- Equalities for a map from names to operands, in the order of the names. -/
def ofMap (pairs : List (String × Operand)) : Criterion := fields (Fields.sorted pairs)

/-- The equality of a named attribute and an operand, which must not be a subquery. -/
def equality : String × Operand → Except Error Expr
  | (key, .value v) => .ok ((Path.ofText key).is v)
  | (key, .subquery _) => .error (.subqueryComparison key)

def expand : Criterion → Except Error (List Expr)
  | expr e => .ok [e]
  | raw text => .ok [.raw text]
  | field key operand => (equality (key, operand)).map ([·])
  | fields pairs => pairs.mapM equality
  | entity e => .error (.ambiguousEntity e)
  | skip => .ok []

def exprs (items : List Criterion) : Except Error (List Expr) :=
  (items.mapM expand).map List.flatten

end Criterion

namespace Expr

def allOf (items : List Criterion) : Except Error Expr := (Criterion.exprs items).map all

def anyOf (items : List Criterion) : Except Error Expr := (Criterion.exprs items).map any

def noneOf (items : List Criterion) : Except Error Expr := (anyOf items).map negate

end Expr

namespace Path

def relate (p : Path) (op : Relationship) (items : List Criterion) : Except Error Expr :=
  (Expr.allOf items).map (.related p op)

/-- The attribute is among values, or among the identifiers of entities, or in what a subquery
finds. -/
def member (p : Path) (op : Inclusion) (operands : List Operand) : Except Error Expr :=
  let values := operands.filterMap Operand.value?
  let entities := values.filterMap Value.entity?
  match operands.filterMap Operand.subquery? with
  | _ :: _ :: _ => .error .multipleSubqueries
  | [c] =>
    if values.isEmpty then .ok (.member p op (.subquery c.asSubquery)) else .error .mixedMembership
  | [] =>
    if entities.isEmpty then .ok (.member p op (.values values))
    else if entities.length = values.length then
      .ok (.member p.identifier op (.values (entities.map fun e => .ofIdentifier e.id)))
    else .error .mixedMembership

end Path

end EntityQuery
