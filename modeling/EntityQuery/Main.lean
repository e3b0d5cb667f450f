import EntityQuery.CommandLine

/-!
# The program

Arguments, the environment and standard input in, standard output and an exit code out. Standard input
is read only when field values are wanted and it is not a terminal.
-/

open EntityQuery.CommandLine

def pipedInput (r : Request) : IO (Option ByteArray) := do
  let stdin ← IO.getStdin
  if !r.wantsInput || (← stdin.isTty) then return none
  return some (← stdin.readBinToEnd)

def main (args : List String) : IO UInt32 := do
  let result ← match Request.ofArguments args (← IO.getEnv pageSizeVariable) with
    | .ok r => pure (r.answer (← pipedInput r))
    | .error stop => pure stop.result
  IO.print result.output
  IO.eprint result.errors
  return result.code
