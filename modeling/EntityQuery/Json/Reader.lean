import EntityQuery.Json.Number

/-!
# Reading JSON

A JSON text is read in one pass, character by character: a state of the reader knows what is still open and what
the text calls for next. The reader is strict: no comments, no trailing commas, no signs or zeros in front of
numbers, white space only where JSON has it, and no lone halves of a surrogate pair. Arrays and objects may be
nested 127 deep. A text that is not JSON is reported with the first reason and its place.
-/

namespace EntityQuery.Json

/-! ## Strings -/

def hexValue? (c : Char) : Option Nat :=
  if c.isDigit then some (c.toNat - '0'.toNat)
  else if 'a' ≤ c ∧ c ≤ 'f' then some (c.toNat - 'a'.toNat + 10)
  else if 'A' ≤ c ∧ c ≤ 'F' then some (c.toNat - 'A'.toNat + 10)
  else none

def codeUnit? (digits : List Char) : Option Nat :=
  digits.foldlM (fun unit c => (hexValue? c).map (16 * unit + ·)) 0

/-- How many bytes are taken after `\u`, whatever they are. -/
def unitSize : Nat := 4

def readUnit (cs : List Char) : Except Fault (Consumed Nat cs) :=
  match (if unitSize ≤ cs.length then codeUnit? (cs.take unitSize) else none) with
  | some unit => .ok ⟨unit, cs.drop unitSize, List.length_drop ▸ Nat.sub_le _ _⟩
  | none => .error ⟨if byteSize cs < unitSize then .endInString else .invalidEscape, cs, unitSize⟩

def isHighSurrogate (unit : Nat) : Bool := 0xD800 ≤ unit && unit < 0xDC00

def isLowSurrogate (unit : Nat) : Bool := 0xDC00 ≤ unit && unit < 0xE000

/-- The character of a surrogate pair whose first half is given. -/
def readPair (high : Nat) : (cs : List Char) → Except Fault (Consumed Char cs)
  | '\\' :: 'u' :: rest => do
    let low ← readUnit rest
    if isLowSurrogate low.value then
      return ((low.map fun low => Char.ofNat (0x10000 + 0x400 * (high - 0xD800) + (low - 0xDC00))).after 'u').after '\\'
    else .error ⟨.loneSurrogate, low.rest, 0⟩
  | [] => stopAtEnd .endInString
  | ['\\'] => stopAtEnd .endInString
  | '\\' :: c :: rest => stopAt .halfPair c rest
  | c :: rest => stopAt .halfPair c rest

def readUnicode (cs : List Char) : Except Fault (Consumed Char cs) := do
  let unit ← readUnit cs
  if isHighSurrogate unit.value then return (← readPair unit.value unit.rest).within unit.rest_le
  else if isLowSurrogate unit.value then .error ⟨.loneSurrogate, unit.rest, 0⟩
  else return unit.map Char.ofNat

def shortEscape? : Char → Option Char
  | '"' => some '"'
  | '\\' => some '\\'
  | '/' => some '/'
  | 'b' => some '\x08'
  | 'f' => some '\x0C'
  | 'n' => some '\n'
  | 'r' => some '\r'
  | 't' => some '\t'
  | _ => none

def readEscape : (cs : List Char) → Except Fault (Consumed Char cs)
  | [] => stopAtEnd .endInString
  | c :: rest =>
    if c = 'u' then do return (← readUnicode rest).after c
    else
      match shortEscape? c with
      | some escaped => .ok ((Consumed.here escaped rest).after c)
      | none => stopAt .invalidEscape c rest

/-- The content of a string after its opening quote. -/
def readString (cs : List Char) : Except Fault (Consumed (List Char) cs) :=
  match cs with
  | [] => stopAtEnd .endInString
  | '"' :: rest => .ok ((Consumed.here [] rest).after '"')
  | '\\' :: rest => do
    let escaped ← readEscape rest
    let content ← readString escaped.rest
    return ((content.map (escaped.value :: ·)).within escaped.rest_le).after '\\'
  | c :: rest =>
    if c.toNat < 0x20 then stopAt .controlCharacter c rest
    else do return ((← readString rest).map (c :: ·)).after c
termination_by cs.length
decreasing_by
  · exact Nat.lt_succ_of_le escaped.rest_le
  · exact Nat.lt_succ_self _

/-! ## States of the reader -/

def isSpace (c : Char) : Bool := c == ' ' || c == '\t' || c == '\n' || c == '\r'

/-- The letters of a keyword after its first one. -/
def readWord : (word cs : List Char) → Except Fault (Consumed Unit cs)
  | [], cs => .ok (.here () cs)
  | _ :: _, [] => stopAtEnd .endInValue
  | letter :: word, c :: rest =>
    if c = letter then do return (← readWord word rest).after c
    else stopAt .expectedKeyword c rest

/-- An array or object that is still open, and that awaits a value: an array with the items it has,
the last one first, an object with its members and the name that the value is for. -/
inductive Frame where
  | array (items : List Json)
  | object (members : List (String × Json)) (name : String)

inductive Expectation where
  | value
  /-- A value, or the end of the array that has just been opened. -/
  | firstItem
  /-- A value after a comma in an array. -/
  | nextItem
  /-- A member's name, or the end of the object that has just been opened. -/
  | firstName
  /-- A member's name after a comma. -/
  | nextName (members : List (String × Json))
  | colon (members : List (String × Json)) (name : String)
  /-- What may follow a complete value. -/
  | afterValue (value : Json)

structure ReadState where
  frames : List Frame
  expects : Expectation

def proceed (s : ReadState) (rest : List Char) : Except Fault (Consumed ReadState rest) :=
  .ok (.here s rest)

/-- How many arrays and objects may be open at once. -/
def maxDepth : Nat := 127

def openFrame (frames : List Frame) (s : ReadState) (c : Char) (rest : List Char) :
    Except Fault (Consumed ReadState rest) :=
  if frames.length < maxDepth then proceed s rest else stopAt .tooDeep c rest

/-- The value that starts with a character, as a whole or as far as the bracket that opens it. -/
def readValue (frames : List Frame) (c : Char) (rest : List Char) : Except Fault (Consumed ReadState rest) :=
  let complete (json : Json) : ReadState := ⟨frames, .afterValue json⟩
  match c with
  | '[' => openFrame frames ⟨.array [] :: frames, .firstItem⟩ c rest
  | '\x7b' => openFrame frames ⟨frames, .firstName⟩ c rest
  | '"' => do return (← readString rest).map fun s => complete (.text (String.ofList s))
  | 'n' => do return (← readWord ['u', 'l', 'l'] rest).map fun _ => complete .null
  | 't' => do return (← readWord ['r', 'u', 'e'] rest).map fun _ => complete (.boolean true)
  | 'f' => do return (← readWord ['a', 'l', 's', 'e'] rest).map fun _ => complete (.boolean false)
  | '-' =>
    match rest with
    | [] => stopAtEnd .endInValue
    | d :: rest => do
      return ((← readNumber true d rest).map fun n => complete (.number n)).after d
  | c =>
    if c.isDigit then do return (← readNumber false c rest).map fun n => complete (.number n)
    else stopAt .expectedValue c rest

def readName (frames : List Frame) (members : List (String × Json)) (c : Char) (rest : List Char) :
    Except Fault (Consumed ReadState rest) :=
  if c = '"' then do
    return (← readString rest).map fun name => ⟨frames, .colon members (String.ofList name)⟩
  else stopAt .expectedName c rest

def readAfterValue (json : Json) (frames : List Frame) (c : Char) (rest : List Char) :
    Except Fault (Consumed ReadState rest) :=
  match frames with
  | [] => stopAt .trailingCharacters c rest
  | .array items :: frames =>
    if c = ',' then proceed ⟨.array (json :: items) :: frames, .nextItem⟩ rest
    else if c = ']' then proceed ⟨frames, .afterValue (.array (json :: items).reverse)⟩ rest
    else stopAt .expectedCommaOrBracket c rest
  | .object members name :: frames =>
    let members := Fields.insertSorted name json members
    if c = ',' then proceed ⟨frames, .nextName members⟩ rest
    else if c = '\x7d' then proceed ⟨frames, .afterValue (.object members)⟩ rest
    else stopAt .expectedCommaOrBrace c rest

namespace ReadState

def step (s : ReadState) (c : Char) (rest : List Char) : Except Fault (Consumed ReadState rest) :=
  match s.expects with
  | .value => readValue s.frames c rest
  | .firstItem =>
    if c = ']' then proceed ⟨s.frames.drop 1, .afterValue (.array [])⟩ rest
    else readValue s.frames c rest
  | .nextItem => if c = ']' then stopAt .trailingComma c rest else readValue s.frames c rest
  | .firstName =>
    if c = '\x7d' then proceed ⟨s.frames, .afterValue (.object [])⟩ rest
    else readName s.frames [] c rest
  | .nextName members =>
    if c = '\x7d' then stopAt .trailingComma c rest else readName s.frames members c rest
  | .colon members name =>
    if c = ':' then proceed ⟨.object members name :: s.frames, .value⟩ rest
    else stopAt .expectedColon c rest
  | .afterValue json => readAfterValue json s.frames c rest

/-- The value if it is complete at the end of the text, or else what the text ends in. -/
def finish (s : ReadState) : Except Fault Json :=
  match s.expects, s.frames with
  | .afterValue json, [] => .ok json
  | .afterValue _, .array _ :: _ => stopAtEnd .endInArray
  | .afterValue _, .object _ _ :: _ => stopAtEnd .endInObject
  | .firstItem, _ => stopAtEnd .endInArray
  | .firstName, _ => stopAtEnd .endInObject
  | .colon _ _, _ => stopAtEnd .endInObject
  | _, _ => stopAtEnd .endInValue

def run (s : ReadState) (cs : List Char) : Except Fault Json :=
  match cs with
  | [] => s.finish
  | c :: rest =>
    if isSpace c then s.run rest
    else do
      let next ← s.step c rest
      next.value.run next.rest
termination_by cs.length
decreasing_by
  · exact Nat.lt_succ_self _
  · exact Nat.lt_succ_of_le next.rest_le

end ReadState

/-- The value of a JSON text, or why it is none. -/
def read (s : String) : Except SyntaxError Json :=
  (ReadState.run ⟨[], .value⟩ s.toList).mapError (Fault.report s.toList)

end EntityQuery.Json
