import EntityQuery.Path
import EntityQuery.Error
import EntityQuery.Text.Blank

/-!
# Sort keys

A path and a direction. `SortKey.read` accepts a path alone (ascending) or a path followed by one
of the direction words.
-/

namespace EntityQuery

inductive SortDirection where
  | ascending
  | descending
  deriving DecidableEq

namespace SortDirection

def ofKeyword? (word : String) : Option SortDirection :=
  if word = "asc" ∨ word = "ascending" then some ascending
  else if word = "desc" ∨ word = "descending" then some descending
  else none

def keyword : SortDirection → String
  | ascending => "ascending"
  | descending => "descending"

def reversed : SortDirection → SortDirection
  | ascending => descending
  | descending => ascending

@[simp] theorem reversed_reversed (d : SortDirection) : d.reversed.reversed = d := by
  cases d <;> rfl

theorem ofKeyword?_keyword (d : SortDirection) : ofKeyword? d.keyword = some d := by
  cases d <;> decide

end SortDirection

structure SortKey where
  path : Path
  direction : SortDirection
  deriving DecidableEq

namespace SortKey

def isDescending (k : SortKey) : Bool := k.direction = .descending

def reversed (k : SortKey) : SortKey := { k with direction := k.direction.reversed }

def toText (k : SortKey) : String := k.path.toText ++ " " ++ k.direction.keyword

/-- The key inside `order by`, where ascending goes without saying. -/
def clause (k : SortKey) : String :=
  match k.direction with
  | .ascending => k.path.toText
  | .descending => k.path.toText ++ " descending"

instance : ToString SortKey := ⟨toText⟩

@[simp] theorem reversed_reversed (k : SortKey) : k.reversed.reversed = k := by
  simp [reversed]

/-- The direction after the path: nothing stands for ascending. A line break inside what follows
makes the whole text unreadable, anything else but a direction word is named in the error. -/
def readDirection (whole : String) (cs : List Char) : Except Error SortDirection :=
  if cs.isEmpty then .ok .ascending
  else if cs.contains '\n' then .error (.unknownSortDirection whole)
  else
    let token := String.ofList cs
    match SortDirection.ofKeyword? token with
    | some direction => .ok direction
    | none => .error (.unknownSortDirection token)

/-- Reads a path, or a path and a direction, with white space around and between. -/
def read (s : String) : Except Error SortKey :=
  let cs := Text.trimChars s.toList
  let word := cs.takeWhile (!Text.isBlankChar ·)
  let rest := Text.trimFront (cs.dropWhile (!Text.isBlankChar ·))
  if word.isEmpty then .error (.unknownSortDirection s)
  else (readDirection s rest).map fun direction => ⟨.ofText (String.ofList word), direction⟩

end SortKey

namespace Path

def ascending (p : Path) : SortKey := ⟨p, .ascending⟩

def descending (p : Path) : SortKey := ⟨p, .descending⟩

/-- The sort key that a path spells by ending in a direction word: `name.desc`. The direction
alone is no key. -/
def sortKey? (p : Path) : Option SortKey := do
  let direction ← SortDirection.ofKeyword? (← p.last?)
  let parent := p.segments.dropLast
  if parent.isEmpty then none else some ⟨⟨parent⟩, direction⟩

end Path

end EntityQuery
