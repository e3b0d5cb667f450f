import EntityQuery.Value

/-!
# Literals

How a value is written in a query. Texts stand between double quotes with a backslash before each
inner quote and backslash; patterns (`like`) keep their backslashes, which belong to the pattern;
numbers, truth values and the missing value are bare words.
-/

namespace EntityQuery.Literal

open Number

def missing : String := "none"

/-- The character that stands for any run of characters in a pattern. -/
def wildcard : Char := '%'

def escape (special : Char → Bool) (cs : List Char) : List Char :=
  cs.flatMap fun c => if special c then ['\\', c] else [c]

def isQuoteSpecial (c : Char) : Bool := c == '\\' || c == '"'

def isPatternSpecial (c : Char) : Bool := c == '\\' || c == wildcard

def enclose (cs : List Char) : String := String.ofList ('"' :: (cs ++ ['"']))

def quote (s : String) : String := enclose (escape isQuoteSpecial s.toList)

/-- A pattern as a literal: its backslashes are its own, only quotes are escaped. -/
def quotePattern (pattern : String) : String := enclose (escape (· == '"') pattern.toList)

/-- A text as a pattern that matches it alone. -/
def escapeWildcards (s : String) : String := String.ofList (escape isPatternSpecial s.toList)

/-- Finite numbers in plain decimal notation, whole ones with `.0`; for the others there is no
literal, so they are written as missing. -/
def ofFloat (x : Binary64) : String := if x.isFinite then Layout.fractional.write x else missing

/-- A value as a literal. An entity is written as its identifier, quoted like a text. -/
def encode : Value → String
  | .null => missing
  | .boolean true => "True"
  | .boolean false => "False"
  | .integer n => toString n.toInt
  | .float x => ofFloat x
  | .decimal d => d.toText
  | .text s => quote s
  | .entity e => quote e.id.toText

/-- The right-hand side of a `like`: a text is a pattern, anything else is written as usual. -/
def encodePattern : Value → String
  | .text s => quotePattern s
  | v => encode v

/-! ## Escaping -/

@[simp] theorem escape_nil (special : Char → Bool) : escape special [] = [] := rfl

@[simp] theorem escape_cons (special : Char → Bool) (c : Char) (cs : List Char) :
    escape special (c :: cs) =
      (if special c then ['\\', c] else [c]) ++ escape special cs := rfl

@[simp] theorem escape_append (special : Char → Bool) (cs ds : List Char) :
    escape special (cs ++ ds) = escape special cs ++ escape special ds := by
  simp [escape]

@[simp] theorem toList_quote (s : String) :
    (quote s).toList = '"' :: (escape isQuoteSpecial s.toList ++ ['"']) := by
  simp [quote, enclose]

@[simp] theorem toList_quotePattern (s : String) :
    (quotePattern s).toList = '"' :: (escape (· == '"') s.toList ++ ['"']) := by
  simp [quotePattern, enclose]

end EntityQuery.Literal
