/-!
# Scanning query text

Query text that was not built here can still be joined and negated, provided that one knows whether
it is one term or several. `hasConnective` looks for `and` and `or` between blanks, outside brackets
and outside literals.
-/

namespace EntityQuery.RawText

/-- Where a scan of query text stands: inside so many brackets, and outside or inside a literal,
there perhaps just after a backslash. -/
inductive Position where
  | plain (depth : Nat)
  | literal (depth : Nat) (escaped : Bool)
  deriving DecidableEq

namespace Position

def start : Position := plain 0

/-- One character further. A closing bracket too many is ignored. -/
def step : Position → Char → Position
  | plain depth, c =>
    if c = '"' then literal depth false
    else if c = '(' then plain (depth + 1)
    else if c = ')' then plain (depth - 1)
    else plain depth
  | literal depth true, _ => literal depth false
  | literal depth false, c =>
    if c = '\\' then literal depth true
    else if c = '"' then plain depth
    else literal depth false

def run (p : Position) (cs : List Char) : Position := cs.foldl step p

@[simp] theorem run_nil (p : Position) : p.run [] = p := rfl

@[simp] theorem run_cons (p : Position) (c : Char) (cs : List Char) :
    p.run (c :: cs) = (p.step c).run cs := rfl

@[simp] theorem run_append (p : Position) (cs ds : List Char) :
    p.run (cs ++ ds) = (p.run cs).run ds := by
  simp [run]

end Position

def startsConnective (cs : List Char) : Bool :=
  [' ', 'a', 'n', 'd', ' '].isPrefixOf cs || [' ', 'o', 'r', ' '].isPrefixOf cs

/-- Whether a connective is found from here on, outside brackets and literals. -/
def hasConnectiveFrom : Position → List Char → Bool
  | _, [] => false
  | p, c :: cs =>
    (decide (p = .start) && startsConnective (c :: cs)) || hasConnectiveFrom (p.step c) cs

/-- Whether the text is more than one term. -/
def hasConnective (text : String) : Bool := hasConnectiveFrom .start text.toList

end EntityQuery.RawText
