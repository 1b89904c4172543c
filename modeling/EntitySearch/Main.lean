import EntitySearch.CommandLine

/-!
# The executable

Reads arguments, variables and the request from outside and hands them to the command line tool.
-/

open EntitySearch

/-- The variables of the environment that settings are read from. -/
def readEnvironment : IO (List (String × String)) := do
  let found ← Setting.all.mapM fun setting => do
    return (← IO.getEnv setting.variableName).map fun value => (setting.variableName, value)
  return found.filterMap id

/-- The text that bytes encode. -/
def decodeRequest (bytes : ByteArray) : Except ReadFailure String :=
  match String.fromUTF8? bytes with
  | some text => .ok text
  | none => .error .notUtf8

/-- The number of the operating system for an error, which some errors have with a minus sign. -/
def systemCode? : IO.Error → Option Nat
  | .noFileOrDirectory _ code _ | .permissionDenied _ code _ | .inappropriateType _ code _
  | .invalidArgument _ code _ => some (if 0x80000000 ≤ code then -code else code).toNat
  | _ => none

/-- The reason of a failed reading. -/
def readFailureOf (error : IO.Error) : ReadFailure :=
  ((systemCode? error).bind ReadFailure.ofCode?).getD (.other (toString error))

/-- The text of a request: the standard input for a dash, a file otherwise. -/
def readRequest (request : String) : IO (Except ReadFailure String) := do
  try
    let bytes ←
      if request = "-" then (← IO.getStdin).readBinToEnd else IO.FS.readBinFile request
    return decodeRequest bytes
  catch error => return .error (readFailureOf error)

def main (arguments : List String) : IO UInt32 := do
  let outcome ←
    match CommandLine.start arguments (← readEnvironment) with
    | .error outcome => pure outcome
    | .ok settings => do pure (CommandLine.finish settings (← readRequest settings.request))
  IO.print outcome.stdout
  IO.eprint outcome.stderr
  return outcome.exitCode.toUInt32
