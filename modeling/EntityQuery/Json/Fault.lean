import EntityQuery.Json

/-!
# Why a text is not JSON

A JSON text is read once, from left to right, and reading stops at the first thing that cannot stand where it
stands. A reader gives what it has read together with the text after it (`Consumed`), or it tells why it stopped
and what was still to be read (`Fault`). For the text as a whole the latter makes a `SyntaxError`, with the line
and the column up to which the text was looked at.
-/

namespace EntityQuery.Json

inductive Cause where
  /-- The text ends inside an array, an object or a string, or where a value is due. -/
  | endInArray
  | endInObject
  | endInString
  | endInValue
  | expectedColon
  | expectedCommaOrBracket
  | expectedCommaOrBrace
  /-- A word that starts like a keyword and is none. -/
  | expectedKeyword
  | expectedValue
  /-- A member of an object that does not start with a string. -/
  | expectedName
  | trailingComma
  | trailingCharacters
  | controlCharacter
  | invalidEscape
  /-- One half of a surrogate pair, next to an escape that is not the other one. -/
  | loneSurrogate
  /-- The first half of a surrogate pair, with no escape after it. -/
  | halfPair
  | invalidNumber
  | numberOutOfRange
  /-- Too many arrays and objects are open. -/
  | tooDeep

def Cause.message : Cause → String
  | endInArray => "EOF while parsing a list"
  | endInObject => "EOF while parsing an object"
  | endInString => "EOF while parsing a string"
  | endInValue => "EOF while parsing a value"
  | expectedColon => "expected `:`"
  | expectedCommaOrBracket => "expected `,` or `]`"
  | expectedCommaOrBrace => "expected `,` or `\x7d`"
  | expectedKeyword => "expected ident"
  | expectedValue => "expected value"
  | expectedName => "key must be a string"
  | trailingComma => "trailing comma"
  | trailingCharacters => "trailing characters"
  | controlCharacter => "control character (\\u0000-\\u001F) found while parsing a string"
  | invalidEscape => "invalid escape"
  | loneSurrogate => "lone leading surrogate in hex escape"
  | halfPair => "unexpected end of hex escape"
  | invalidNumber => "invalid number"
  | numberOutOfRange => "number out of range"
  | tooDeep => "recursion limit exceeded"

/-! ## Places in a text -/

/-- A line, counted from one, and the bytes of it that lie before the place. -/
structure Position where
  line : Nat
  column : Nat

/-- The place so many bytes further on in the text, or at its end. -/
def Position.advance : Position → List Char → Nat → Position
  | p, [], _ => p
  | p, c :: cs, bytes =>
    if bytes < c.utf8Size then ⟨p.line, p.column + bytes⟩
    else
      -- a line feed still belongs to the line that it ends
      let next : Position := if c = '\n' then ⟨p.line + 1, 0⟩ else ⟨p.line, p.column + c.utf8Size⟩
      next.advance cs (bytes - c.utf8Size)

def byteSize (cs : List Char) : Nat := (String.ofList cs).utf8ByteSize

structure SyntaxError where
  cause : Cause
  position : Position

def SyntaxError.message (e : SyntaxError) : String :=
  e.cause.message ++ " at line " ++ toString e.position.line ++ " column " ++ toString e.position.column

/-- Why reading stopped. Of the text that is still to be read, some bytes were looked at. -/
structure Fault where
  cause : Cause
  rest : List Char
  seen : Nat

def Fault.report (text : List Char) (f : Fault) : SyntaxError :=
  ⟨f.cause, Position.advance ⟨1, 0⟩ text (byteSize text - byteSize f.rest + f.seen)⟩

/-! ## What was read -/

/-- Something that was read at the start of a text, and what follows it. -/
structure Consumed (α : Type) (cs : List Char) where
  value : α
  rest : List Char
  rest_le : rest.length ≤ cs.length

namespace Consumed

variable {α β : Type} {cs ds : List Char}

/-- A value that takes nothing of the text. -/
def here (value : α) (cs : List Char) : Consumed α cs := ⟨value, cs, Nat.le_refl _⟩

def map (f : α → β) (r : Consumed α cs) : Consumed β cs := ⟨f r.value, r.rest, r.rest_le⟩

/-- The same in a text that is no shorter and ends alike. -/
def within (r : Consumed α cs) (h : cs.length ≤ ds.length) : Consumed α ds :=
  ⟨r.value, r.rest, Nat.le_trans r.rest_le h⟩

/-- The same in a text with one character more in front. -/
def after (c : Char) (r : Consumed α cs) : Consumed α (c :: cs) := r.within (Nat.le_succ _)

end Consumed

def stopAtEnd {α : Type} (cause : Cause) : Except Fault α := .error ⟨cause, [], 0⟩

/-- Stops at a character that cannot stand there; its first byte was looked at. -/
def stopAt {α : Type} (cause : Cause) (c : Char) (rest : List Char) : Except Fault α := .error ⟨cause, c :: rest, 1⟩

end EntityQuery.Json
