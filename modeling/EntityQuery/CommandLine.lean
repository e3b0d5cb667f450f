import EntityQuery.CommandLine.Arguments

/-!
# The command line

One run of the program: arguments, the environment's page size and what is piped in, to an exit code
and what is printed. Code 0 prints the statement (or the version), code 1 an error, code 2 stands for
arguments that make no sense.
-/

namespace EntityQuery.CommandLine

structure Result where
  code : UInt32
  output : String := ""
  errors : String := ""

def versionText : String := "ftq 0.2.0"

def pageSizeVariable : String := "FTRACK_API_PAGE_SIZE"

def usageText : String :=
  "usage: ftq [--page-size N] select|create|update|delete [OPTIONS] ENTITY"

def Stop.result : Stop → Result
  | usage => { code := 2, errors := usageText ++ "\n" }
  | version => { code := 0, output := versionText ++ "\n" }

namespace Request

/-- Whether field values are taken from what is piped in: the command assigns fields and no object
is given. -/
def wantsInput (r : Request) : Bool :=
  (r.command = .create || r.command = .update) && r.object.isNone

/-- The request with the piped text as its object of field values; a blank text counts as none. -/
def withInput (r : Request) (input : ByteArray) : Except RequestError Request :=
  match String.fromUTF8? input with
  | none => .error .undecodableInput
  | some text => .ok (if Text.isBlank text then r else { r with object := some text })

def result (r : Except RequestError Request) : Result :=
  match r.bind text with
  | .ok text => { code := 0, output := text ++ "\n" }
  | .error e => { code := 1, errors := e.message ++ "\n" }

/-- Answers the request; `input` is what is piped in, if anything is. -/
def answer (r : Request) (input : Option ByteArray) : Result :=
  match input with
  | some bytes => result (if r.wantsInput then r.withInput bytes else .ok r)
  | none => result (.ok r)

end Request

def run (args : List String) (environment : Option String) (input : ByteArray) : Result :=
  match Request.ofArguments args environment with
  | .ok r => r.answer (some input)
  | .error stop => stop.result

end EntityQuery.CommandLine
