import EntityQuery.Expr

/-!
# The text of expressions and clauses

The grammar reads connectives from left to right without precedence, so an `or` group of more than
one term is bracketed and an `and` group is bracketed inside an `or`. A negation is bracketed if it
would otherwise take only the first term of what follows.

`Expr.text` and `Clauses.text` are the texts; `Clauses.text_eq` shows the clauses' text through their
predicate.
-/

namespace EntityQuery

namespace Expr

/-- Whether the term is bracketed when it stands beside others under the connective. -/
def bracketsIn (c : Connective) : Expr → Bool
  | and terms => c = .or && 1 < (live terms).length
  | raw text => RawText.hasConnective text
  | _ => false

mutual

/-- Whether `not` before the expression takes only a part of it, so that brackets are due. An `or`
group brings its own. -/
def bracketsUnderNot : Expr → Bool
  | and terms =>
    match liveBracketsUnderNot terms with
    | [brackets] => brackets
    | _ => true
  | or terms =>
    match liveBracketsUnderNot terms with
    | [brackets] => brackets
    | _ => false
  | raw text => RawText.hasConnective text
  | _ => false

def liveBracketsUnderNot : List Expr → List Bool
  | [] => []
  | t :: ts =>
    if t.isEmpty then liveBracketsUnderNot ts
    else t.bracketsUnderNot :: liveBracketsUnderNot ts

end

theorem liveBracketsUnderNot_eq (ts : List Expr) :
    liveBracketsUnderNot ts = (live ts).map bracketsUnderNot := by
  induction ts with
  | nil => rfl
  | cons t ts ih =>
    rw [liveBracketsUnderNot, live_cons]
    split <;> simp [ih]

/-- A term of a group: its text, and whether it is bracketed beside other terms. -/
structure Term where
  text : String
  brackets : Bool

def enclose (text : String) : String := "(" ++ text ++ ")"

/-- Terms under a connective. A single term stands alone; several are joined, and a disjunction of
several is bracketed as a whole. -/
def joinTerms (c : Connective) : List Term → String
  | [] => ""
  | [t] => t.text
  | ts =>
    let joined := (" " ++ c.keyword ++ " ").intercalate
      (ts.map fun t => if t.brackets then enclose t.text else t.text)
    match c with
    | .and => joined
    | .or => enclose joined

end Expr

/-- Values between the brackets of a membership test. An empty list would leave the brackets empty,
which no server accepts, so it is written as one empty text. -/
def valuesText (values : List Value) : String :=
  if values.isEmpty then Literal.quote "" else ", ".intercalate (values.map Literal.encode)

/-- The parts of a clause text in their fixed order: projection, entity type, condition, groups, sort
keys, offset, limit. -/
def clauseParts (withProjection : Bool) (entityType condition : String) (projection groupBy : List String)
    (sort : List SortKey) (offset : UInt64) (limit : Option UInt64) : List String :=
  (if withProjection && !projection.isEmpty then
    ["select", ", ".intercalate projection, "from"] else []) ++
  [entityType] ++
  (if condition.isEmpty then [] else ["where", condition]) ++
  (if groupBy.isEmpty then [] else ["group by", ", ".intercalate groupBy]) ++
  (if sort.isEmpty then [] else ["order by", ", ".intercalate (sort.map SortKey.clause)]) ++
  (if offset = 0 then [] else ["offset " ++ toString offset.toNat]) ++
  (match limit with
    | none => []
    | some n => ["limit " ++ toString n.toNat])

def joinParts (parts : List String) : String := " ".intercalate (parts.filter (!·.isEmpty))

mutual

def Expr.text : Expr → String
  | .compare path op value =>
    path.toText ++ " " ++ op.keyword ++ " " ++
      (if op.takesPattern then Literal.encodePattern value else Literal.encode value)
  | .related path op condition =>
    path.toText ++ " " ++ op.keyword ++ " " ++ Expr.enclose condition.text
  | .member path op members =>
    path.toText ++ " " ++ op.keyword ++ " " ++ Expr.enclose members.text
  | .and terms => Expr.joinTerms .and (Expr.liveTerms .and terms)
  | .or terms => Expr.joinTerms .or (Expr.liveTerms .or terms)
  | .not term =>
    negationKeyword ++ " " ++
      (if term.bracketsUnderNot then Expr.enclose term.text else term.text)
  | .raw text => text

def Expr.liveTerms (c : Connective) : List Expr → List Expr.Term
  | [] => []
  | t :: ts =>
    if t.isEmpty then Expr.liveTerms c ts
    else ⟨t.text, t.bracketsIn c⟩ :: Expr.liveTerms c ts

def Members.text : Members → String
  | .values values => valuesText values
  | .subquery clauses => clauses.text true

/-- The text of the clauses, with or without the attributes to fetch. -/
def Clauses.text (withProjection : Bool) : Clauses → String
  | ⟨entityType, filters, projection, groupBy, sort, offset, limit⟩ =>
    joinParts <| clauseParts withProjection entityType
      (Expr.joinTerms .and (Expr.liveTerms .and filters)) projection groupBy sort offset limit

end

instance : ToString Expr := ⟨Expr.text⟩

namespace Expr

def term (c : Connective) (e : Expr) : Term := ⟨e.text, e.bracketsIn c⟩

theorem liveTerms_eq (c : Connective) (ts : List Expr) :
    liveTerms c ts = (live ts).map (term c) := by
  induction ts with
  | nil => rfl
  | cons t ts ih =>
    rw [liveTerms, live_cons]
    split <;> simp [ih, term]

theorem text_ofConnective (c : Connective) (ts : List Expr) :
    (ofConnective c ts).text = joinTerms c ((live ts).map (term c)) := by
  cases c <;> simp [ofConnective, text, liveTerms_eq]

theorem text_group (c : Connective) (ts : List Expr) :
    (group c ts).text = joinTerms c ((live ts).map (term c)) := by
  unfold group
  split
  next t h => simp [h, joinTerms, term]
  · rw [text_ofConnective, live_live]

theorem text_all (ts : List Expr) : (all ts).text = (and ts).text := by
  rw [all, text_group]
  exact (text_ofConnective .and ts).symm

end Expr

theorem Clauses.text_eq (withProjection : Bool) (c : Clauses) :
    c.text withProjection = joinParts (clauseParts withProjection c.entityType c.predicate.text
      c.projection c.groupBy c.sort c.offset c.limit) := by
  obtain ⟨entityType, filters, projection, groupBy, sort, offset, limit⟩ := c
  rw [Clauses.text, predicate, Expr.text_all, Expr.text]

end EntityQuery
