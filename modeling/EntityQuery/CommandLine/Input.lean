import EntityQuery.Criterion
import EntityQuery.Json.Reader
import EntityQuery.Text.Word

/-!
# What is typed on a command line

Values, filters and assignments as one types them, and objects of field values as JSON.

* `readValue` takes any text: keywords and numbers mean what they say, double quotes make a text, and
  anything else is a text as it stands.
* `readFilter` reads a key, an operator and a value.
* `readAssignment` reads `key=value`; `readObject` reads a JSON object.
-/

namespace EntityQuery.CommandLine

inductive RequestError where
  | query (cause : Error)
  /-- The field values are not JSON. -/
  | json (cause : Json.SyntaxError)
  /-- The field values are JSON, but no object. -/
  | notAnObject
  /-- An assignment without a key. -/
  | invalidAssignment (text : String)
  /-- The input is not UTF-8. -/
  | undecodableInput

def RequestError.message : RequestError → String
  | query cause => "Query error: " ++ cause.message
  | json cause => "Invalid JSON: " ++ cause.message
  | notAnObject => "Field values must be a JSON object."
  | invalidAssignment text =>
    "Invalid assignment: '" ++ text ++ "'\nExpected the form key=value."
  | undecodableInput => "IO error: stream did not contain valid UTF-8"

/-! ## Values -/

def unquote? : List Char → Option (List Char)
  | '"' :: rest => if rest.getLast? = some '"' then some rest.dropLast else none
  | _ => none

def readFinite? (s : String) : Option Number.Binary64 :=
  (Number.readBinary64? s).filter Number.Binary64.isFinite

def readTrimmed (s : String) : Value :=
  if s = "none" then .null
  else if s = "True" ∨ s = "true" then .boolean true
  else if s = "False" ∨ s = "false" then .boolean false
  else
    match Number.readInteger? s with
    | some n => .integer n
    | none =>
      match readFinite? s with
      | some x => .float x
      | none =>
        match unquote? s.toList with
        | some cs => .text (String.ofList cs)
        | none => .text s

/-- The value that a text on the command line stands for. -/
def readValue (s : String) : Value := readTrimmed (Text.trim s)

/-! ## Filters -/

def isKeyChar (c : Char) : Bool := Text.isWordChar c || c == '.' || c == '[' || c == ']'

def readOperator? : List Char → Option (Comparison × List Char)
  | '!' :: '=' :: rest => some (.notEqual, rest)
  | '>' :: '=' :: rest => some (.greaterOrEqual, rest)
  | '<' :: '=' :: rest => some (.lessOrEqual, rest)
  | '=' :: rest => some (.equal, rest)
  | '>' :: rest => some (.greater, rest)
  | '<' :: rest => some (.less, rest)
  | '~' :: rest => some (.like, rest)
  | _ => none

/-- Key, operator and value of a filter text, if it has that form: white space may stand around each
of them, and the value is one line. -/
def splitFilter? (cs : List Char) : Option (List Char × Comparison × List Char) := do
  let cs := Text.trimFront cs
  let key := cs.takeWhile isKeyChar
  let (op, rest) ← readOperator? (Text.trimFront (cs.dropWhile isKeyChar))
  let value := Text.trimChars rest
  if key.isEmpty || value.contains '\n' then none else some (key, op, value)

def readFilter (s : String) : Except Error Expr :=
  match splitFilter? s.toList with
  | some (key, op, value) =>
    .ok ((Path.ofText (String.ofList key)).compare op (readValue (String.ofList value)))
  | none => .error (.invalidFilter s)

/-! ## Field values -/

/-- A field and its value, from `key=value`. The key must not be blank. -/
def readAssignment (s : String) : Except RequestError (String × Value) :=
  let key := Text.trimChars (s.toList.takeWhile (· != '='))
  match s.toList.dropWhile (· != '=') with
  | _ :: value =>
    if key.isEmpty then .error (.invalidAssignment s)
    else .ok (String.ofList key, readValue (String.ofList value))
  | [] => .error (.invalidAssignment s)

def readObject (s : String) : Except RequestError (List (String × Value)) :=
  match Json.read s with
  | .error cause => .error (.json cause)
  | .ok (.object members) => .ok (members.map fun (name, json) => (name, json.toValue))
  | .ok _ => .error .notAnObject

end EntityQuery.CommandLine
