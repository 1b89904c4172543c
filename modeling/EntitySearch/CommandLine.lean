import EntitySearch.ReadFailure
import EntitySearch.Request
import EntitySearch.Settings

/-!
# The command line tool

A run of the tool reads its settings, reads one request and prints the statements of the request.
What goes wrong is reported on the error output, with the step that failed and the cause.
-/

namespace EntitySearch

/-- What a run of the tool leaves behind. -/
structure RunOutcome where
  /-- The exit code. -/
  exitCode : Nat
  /-- The output. -/
  stdout : String := ""
  /-- The error output. -/
  stderr : String := ""
  deriving DecidableEq, Repr

namespace CommandLine

/-- What the tool says of its use. -/
def usage : String :=
  "Usage: sift [OPTIONS] <REQUEST>\n\n" ++
    "Options: --dialect, --log-level, --pagination, --start, --default-size, " ++
    "--max-allowed-size, --pretty\n"

/-- The arguments or variables are not understood, or help is asked for. -/
def usageOutcome : UsageError → RunOutcome
  | .helpRequested => { exitCode := 0, stdout := usage }
  | _ => { exitCode := 2, stderr := usage }

/-- The settings are understood but contradict each other or name what does not exist. -/
def problemOutcome (problems : List String) : RunOutcome where
  exitCode := 1
  stderr := String.join (problems.map fun problem => "Configuration error: " ++ problem ++ "\n")

/-- A text whose lines are indented by four blanks. -/
def indented (text : String) : String :=
  "    " ++ String.ofList (text.toList.flatMap fun char =>
    if char = '\n' then ['\n', ' ', ' ', ' ', ' '] else [char])

/-- A step failed for a cause. -/
def failure (step cause : String) : RunOutcome where
  exitCode := 1
  stderr := "Error: " ++ step ++ "\n\nCaused by:\n" ++ indented cause ++ "\n"

/-- A request failed at one of its steps. -/
def requestFailure : RequestError → RunOutcome
  | .entity error => failure "Invalid entity definition" error.message
  | .search error => failure "Invalid search definition" error.message
  | .resolution error => failure "Failed to resolve search" error.message

/-- The settings of a run, unless it ends before the request is read. -/
def start (arguments : List String) (environment : List (String × String)) :
    Except RunOutcome Settings := do
  let settings ← (Settings.ofArguments arguments environment).mapError usageOutcome
  if settings.problems.isEmpty then return settings
  else throw (problemOutcome settings.problems)

/-- The statements of a request, as the tool prints them. -/
def printed (settings : Settings) (resolution : Resolution) : String :=
  let document := resolution.document
  (if settings.pretty then document.pretty else document.compact) ++ "\n"

/-- The rest of a run, with the text of the request or the reason why it cannot be had. -/
def finish (settings : Settings) (text : Except ReadFailure String) : RunOutcome :=
  let outcome : Except RunOutcome RunOutcome := do
    let problem (error : SearchError) : RunOutcome := problemOutcome [error.message]
    let dialect ← settings.dialectKind.mapError problem
    let pagination ← settings.requestPagination.mapError problem
    let text ← text.mapError fun cause =>
      failure (ReadFailure.subject settings.request) cause.message
    let request ← (Request.ofJson text).mapError fun error =>
      failure ("Invalid request JSON in " ++ settings.request) error.message
    let resolution ← (request.run { dialect } pagination).mapError requestFailure
    return { exitCode := 0, stdout := printed settings resolution }
  match outcome with
  | .ok outcome | .error outcome => outcome

/-- A whole run, with the texts that requests can be read from. -/
def run (arguments : List String) (environment : List (String × String))
    (readRequest : String → Except ReadFailure String) : RunOutcome :=
  match start arguments environment with
  | .error outcome => outcome
  | .ok settings => finish settings (readRequest settings.request)

end CommandLine

end EntitySearch
