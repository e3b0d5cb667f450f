import EntityQuery.Fields

/-!
# JSON values

JSON as data. `Json.toValue` gives the value that a JSON text stands for: scalars have a counterpart,
arrays and objects have none and are passed on as their text.

The members of an object are sorted by name, and each name occurs once.
-/

namespace EntityQuery

open Number

/-- A number as it is kept after reading: whole, within 64 bits, or rounded. -/
inductive JsonNumber where
  | whole (n : Int)
  | rounded (x : Binary64)

inductive Json where
  | null
  | boolean (b : Bool)
  | number (n : JsonNumber)
  | text (s : String)
  | array (items : List Json)
  | object (members : List (String × Json))

namespace JsonNumber

/-- Whole numbers are written as such, others with the fewest digits. -/
def toText : JsonNumber → String
  | whole n => toString n
  | rounded x => Layout.json.write x

/-- A whole number of 64 bits and a sign is an integer, any other number a float. -/
def toValue : JsonNumber → Value
  | whole n =>
    if Int64.minValue.toInt ≤ n ∧ n ≤ Int64.maxValue.toInt then .integer (Int64.ofInt n)
    else .float (.ofRatio (n < 0) n.natAbs 1)
  | rounded x => .float x

end JsonNumber

namespace Json

/-- Two hexadecimal digits after `\u00`, for a control character without a short form. -/
def controlEscape (c : Char) : List Char :=
  ['\\', 'u', '0', '0', Nat.digitChar (c.toNat / 16), Nat.digitChar (c.toNat % 16)]

def escapeChar (c : Char) : List Char :=
  if c = '"' then ['\\', '"']
  else if c = '\\' then ['\\', '\\']
  else if c = '\x08' then ['\\', 'b']
  else if c = '\x0C' then ['\\', 'f']
  else if c = '\n' then ['\\', 'n']
  else if c = '\r' then ['\\', 'r']
  else if c = '\t' then ['\\', 't']
  else if c.toNat < 0x20 then controlEscape c
  else [c]

def quote (s : String) : String :=
  String.ofList ('"' :: (s.toList.flatMap escapeChar ++ ['"']))

mutual

def compact : Json → String
  | null => "null"
  | boolean b => if b then "true" else "false"
  | number n => n.toText
  | text s => quote s
  | array items => "[" ++ ",".intercalate (compactItems items) ++ "]"
  | object members => "\x7b" ++ ",".intercalate (compactMembers members) ++ "\x7d"

def compactItems : List Json → List String
  | [] => []
  | item :: items => item.compact :: compactItems items

def compactMembers : List (String × Json) → List String
  | [] => []
  | (name, item) :: members => (quote name ++ ":" ++ item.compact) :: compactMembers members

end

def toValue : Json → Value
  | null => .null
  | boolean b => .boolean b
  | number n => n.toValue
  | text s => .text s
  | json => .text json.compact

end Json

end EntityQuery
