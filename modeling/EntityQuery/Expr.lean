import EntityQuery.Operator
import EntityQuery.Path.SortKey
import EntityQuery.Literal
import EntityQuery.RawText

/-!
# Expressions

The condition of a query as a tree, together with the clauses of a query, since a membership test
may hold a whole subquery.

* `Expr.isEmpty`: the expression places no constraint.
* `Expr.all`, `Expr.any`: grouping, which drops empty terms and leaves a single term alone.
* `Expr.negate`: logical inverse; it removes a negation rather than add a second one.
-/

namespace EntityQuery

mutual

inductive Expr where
  /-- An attribute against a literal. -/
  | compare (path : Path) (op : Comparison) (value : Value)
  /-- A condition on what a relation leads to. -/
  | related (path : Path) (op : Relationship) (condition : Expr)
  /-- An attribute against a list or a subquery. -/
  | member (path : Path) (op : Inclusion) (members : Members)
  /-- Every term holds. -/
  | and (terms : List Expr)
  /-- Some term holds. -/
  | or (terms : List Expr)
  | not (term : Expr)
  /-- Query text that is taken as it is. -/
  | raw (text : String)

inductive Members where
  | values (values : List Value)
  | subquery (clauses : Clauses)

/-- The clauses that select, update and delete statements share. -/
structure Clauses where
  entityType : String
  /-- Conditions, all of which must hold. -/
  filters : List Expr := []
  /-- Attributes to fetch with each row. -/
  projection : List String := []
  groupBy : List String := []
  sort : List SortKey := []
  /-- How many rows are skipped. -/
  offset : UInt64 := 0
  /-- How many rows there are at most. -/
  limit : Option UInt64 := none

end

namespace Expr

/-! ## Emptiness -/

mutual

/-- An expression that places no constraint: a blank text, or a group of such expressions. -/
def isEmpty : Expr → Bool
  | and terms => allEmpty terms
  | or terms => allEmpty terms
  | raw text => Text.isBlank text
  | _ => false

def allEmpty : List Expr → Bool
  | [] => true
  | t :: ts => t.isEmpty && allEmpty ts

end

theorem allEmpty_eq_all (ts : List Expr) : allEmpty ts = ts.all isEmpty := by
  induction ts with
  | nil => rfl
  | cons t ts ih => simp [allEmpty, ih]

def live (terms : List Expr) : List Expr := terms.filter (!·.isEmpty)

@[simp] theorem live_nil : live [] = [] := rfl

theorem live_cons (t : Expr) (ts : List Expr) :
    live (t :: ts) = if t.isEmpty then live ts else t :: live ts := by
  cases h : t.isEmpty <;> simp [live, h]

@[simp] theorem live_append (ts us : List Expr) : live (ts ++ us) = live ts ++ live us := by
  simp [live]

@[simp] theorem live_live (ts : List Expr) : live (live ts) = live ts := by
  simp [live]

theorem live_eq_nil_iff (ts : List Expr) : live ts = [] ↔ allEmpty ts = true := by
  simp [live, allEmpty_eq_all]

/-! ## Grouping and negation -/

def ofConnective : Connective → List Expr → Expr
  | .and => and
  | .or => or

/-- The live terms under a connective; a single one stands for itself. -/
def group (c : Connective) (terms : List Expr) : Expr :=
  match live terms with
  | [t] => t
  | ts => ofConnective c ts

def all (terms : List Expr) : Expr := group .and terms

def any (terms : List Expr) : Expr := group .or terms

/-- The logical inverse. An empty expression has none and stays as it is. -/
def negate : Expr → Expr
  | not t => t
  | e => if e.isEmpty then e else not e

theorem negate_of_live {e : Expr} (h : e.isEmpty = false) (hnot : ∀ t, e ≠ not t) :
    e.negate = not e := by
  unfold negate
  split
  · exact absurd rfl (hnot _)
  · simp [h]

theorem negate_of_isEmpty {e : Expr} (h : e.isEmpty = true) : e.negate = e := by
  cases e with
  | not t => cases h
  | _ => simp only [negate, h, if_true]

@[simp] theorem isEmpty_ofConnective (c : Connective) (ts : List Expr) :
    (ofConnective c ts).isEmpty = allEmpty ts := by
  cases c <;> rfl

theorem isEmpty_group (c : Connective) (ts : List Expr) : (group c ts).isEmpty = allEmpty ts := by
  unfold group
  split
  next t h =>
    have hmem : t ∈ live ts := by simp [h]
    have hlive : t.isEmpty = false := by simpa [live] using (List.mem_filter.1 hmem).2
    rw [hlive]
    symm
    rw [Bool.eq_false_iff, ne_eq, ← live_eq_nil_iff, h]
    simp
  · rw [isEmpty_ofConnective, Bool.eq_iff_iff, ← live_eq_nil_iff, ← live_eq_nil_iff, live_live]

theorem isEmpty_any_cons {t : Expr} (h : t.isEmpty = false) (ts : List Expr) :
    (any (t :: ts)).isEmpty = false := by
  rw [any, isEmpty_group, allEmpty, h]
  rfl

end Expr

def Clauses.predicate (c : Clauses) : Expr := .all c.filters

/-- The clauses as they stand inside a membership test: without attributes of their own to fetch, they
fetch the identifier. -/
def Clauses.asSubquery (c : Clauses) : Clauses :=
  if c.projection.isEmpty then { c with projection := [Path.identifierField] } else c

end EntityQuery
