import EntityQuery.Session

/-!
# Debugging text

Statements and what they are made of, written out in full on one line: records with their field names,
alternatives with their names, texts in quotes. Unlike the query text, it shows everything that a
statement holds, such as its page size and whether it is bound to a session.
-/

namespace EntityQuery

namespace Inspect

def record (name : String) (fields : List (String × String)) : String :=
  name ++ " \x7b " ++ ", ".intercalate (fields.map fun (key, text) => key ++ ": " ++ text) ++ " \x7d"

def wrapped (name content : String) : String := name ++ "(" ++ content ++ ")"

def list (items : List String) : String := "[" ++ ", ".intercalate items ++ "]"

def texts (items : List String) : String := list (items.map Text.inspect)

def option : Option String → String
  | none => "None"
  | some content => wrapped "Some" content

/-- Numbers as in a literal, with an exponent where they are far from one. -/
def float : Number.Layout := { Number.Layout.json with plusSign := false, tie := .up }

end Inspect

open Inspect

def Identifier.inspect : Identifier → String
  | text id => wrapped "Text" (Text.inspect id)
  | integer id => wrapped "Integer" (toString id.toInt)

def EntityRef.inspect (e : EntityRef) : String :=
  record "EntityRef"
    [("entity_type", option (e.entityType.map Text.inspect)), ("id", e.id.inspect)]

def Value.inspect : Value → String
  | null => "Null"
  | boolean b => wrapped "Boolean" (if b then "true" else "false")
  | integer n => wrapped "Integer" (toString n.toInt)
  | float x => wrapped "Float" (Inspect.float.write x)
  | decimal d => wrapped "Decimal" d.toText
  | text s => wrapped "Text" (Text.inspect s)
  | entity e => wrapped "Entity" e.inspect

def Path.inspect (p : Path) : String := record "Attr" [("segments", texts p.segments)]

def SortDirection.inspect : SortDirection → String
  | ascending => "Ascending"
  | descending => "Descending"

def SortKey.inspect (k : SortKey) : String :=
  record "SortKey" [("path", k.path.inspect), ("direction", k.direction.inspect)]

def Comparison.inspect : Comparison → String
  | equal => "Is"
  | notEqual => "IsNot"
  | greater => "GreaterThan"
  | greaterOrEqual => "GreaterEqual"
  | less => "LessThan"
  | lessOrEqual => "LessEqual"
  | like => "Like"
  | notLike => "NotLike"
  | after => "After"
  | before => "Before"

def Relationship.inspect : Relationship → String
  | has => "Has"
  | any => "Any"

def Inclusion.inspect : Inclusion → String
  | isIn => "In"
  | notIn => "NotIn"

mutual

def Expr.inspect : Expr → String
  | .compare path op value =>
    record "Compare" [("path", path.inspect), ("op", op.inspect), ("value", value.inspect)]
  | .related path op condition =>
    record "Relation" [("path", path.inspect), ("op", op.inspect), ("condition", condition.inspect)]
  | .member path op members =>
    record "Membership" [("path", path.inspect), ("op", op.inspect), ("members", members.inspect)]
  | .and terms => wrapped "And" (list (Expr.inspectEach terms))
  | .or terms => wrapped "Or" (list (Expr.inspectEach terms))
  | .not term => wrapped "Not" term.inspect
  | .raw text => wrapped "Raw" (Text.inspect text)

def Expr.inspectEach : List Expr → List String
  | [] => []
  | t :: ts => t.inspect :: Expr.inspectEach ts

def Members.inspect : Members → String
  | .values values => wrapped "Values" (list (values.map Value.inspect))
  | .subquery clauses => wrapped "Subquery" clauses.inspect

def Clauses.inspect : Clauses → String
  | ⟨entityType, filters, projection, groupBy, sort, offset, limit⟩ =>
    record "Clauses"
      [("entity_type", Text.inspect entityType),
        ("filters", list (Expr.inspectEach filters)),
        ("projection", texts projection),
        ("group_by", texts groupBy),
        ("sort", list (sort.map SortKey.inspect)),
        ("offset", toString offset.toNat),
        ("limit", option (limit.map fun n => toString n.toNat))]

end

def FieldValues.inspect (values : FieldValues) : String :=
  wrapped "FieldValues" <| list <| values.fields.map fun (key, v) =>
    "(" ++ Text.inspect key ++ ", " ++ v.inspect ++ ")"

namespace Inspect

variable {σ : Type}

def pageSizeField (n : Option UInt32) : String × String :=
  ("page_size", option (n.map fun n => toString n.toNat))

/-- Of a session only its presence is shown. -/
def sessionField (s : Option σ) : String × String :=
  ("session", Text.inspect (if s.isSome then "bound" else "unbound"))

end Inspect

variable {σ : Type}

def Select.inspect (s : Select σ) : String :=
  record "Select" [("clauses", s.clauses.inspect), pageSizeField s.pageSize, sessionField s.session]

def Insert.inspect (s : Insert σ) : String :=
  record "Insert" [("entity_type", Text.inspect s.entityType), ("values", s.values.inspect),
    sessionField s.session]

def Update.inspect (s : Update σ) : String :=
  record "Update" [("clauses", s.clauses.inspect), ("values", s.effect.inspect),
    pageSizeField s.pageSize, sessionField s.session]

def Delete.inspect (s : Delete σ) : String :=
  record "Delete" [("clauses", s.clauses.inspect), pageSizeField s.pageSize,
    ("remove_components", if s.effect.componentsFirst then "true" else "false"), sessionField s.session]

def Statement.inspect : Statement σ → String
  | select s => s.inspect
  | insert s => s.inspect
  | update s => s.inspect
  | delete s => s.inspect

/-- Of a query result the query is shown, and that there is more. -/
def QueryResult.inspect {ω ρ : Type} (r : QueryResult ω ρ) : String :=
  "QueryResult \x7b query: " ++ Text.inspect r.query ++ ", .. \x7d"

end EntityQuery
