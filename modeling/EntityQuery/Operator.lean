/-!
# Operators

The keywords between a path and what it is compared with, and those between expressions.
-/

namespace EntityQuery

inductive Comparison where
  | equal
  | notEqual
  | greater
  | greaterOrEqual
  | less
  | lessOrEqual
  | like
  | notLike
  | after
  | before
  deriving DecidableEq

def Comparison.keyword : Comparison → String
  | equal => "is"
  | notEqual => "is_not"
  | greater => ">"
  | greaterOrEqual => ">="
  | less => "<"
  | lessOrEqual => "<="
  | like => "like"
  | notLike => "not_like"
  | after => "after"
  | before => "before"

def Comparison.takesPattern : Comparison → Bool
  | like | notLike => true
  | _ => false

/-- Between a relation and a condition on what it leads to: one entity (`has`) or some entity of a
collection (`any`). -/
inductive Relationship where
  | has
  | any
  deriving DecidableEq

def Relationship.keyword : Relationship → String
  | has => "has"
  | any => "any"

inductive Inclusion where
  | isIn
  | notIn
  deriving DecidableEq

def Inclusion.keyword : Inclusion → String
  | isIn => "in"
  | notIn => "not_in"

/-- Between expressions. They are read from left to right, neither binding tighter. -/
inductive Connective where
  | and
  | or
  deriving DecidableEq

def Connective.keyword : Connective → String
  | and => "and"
  | or => "or"

def negationKeyword : String := "not"

end EntityQuery
