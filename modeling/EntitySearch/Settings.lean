import EntitySearch.Dialect
import EntitySearch.Pagination

/-!
# Settings

The settings of the command line tool.  Each can be given as an argument or by a variable of the
environment, in this order of precedence, and has a default otherwise; only the request has to be
named.  Arguments are read from left to right.
-/

namespace EntitySearch

/-- What is wrong with the arguments or the environment. -/
inductive UsageError where
  /-- The request is not named. -/
  | missingRequest
  /-- There is no such option, or one argument too many. -/
  | unknownArgument
  /-- An option lacks its value, or a variable is no truth value. -/
  | invalidValue
  /-- A value is no natural number of 64 bits. -/
  | invalidNumber
  /-- An option is given twice. -/
  | repeatedOption
  /-- A value is attached to an option that takes none. -/
  | unwantedValue
  /-- Help is asked for. -/
  | helpRequested
  deriving DecidableEq, Repr

/-- A setting with an option and a variable. -/
inductive Setting where
  /-- The dialect of the statements. -/
  | dialect
  /-- How much is logged. -/
  | logLevel
  /-- What the position of a request counts. -/
  | pagination
  /-- The position of the first row. -/
  | start
  /-- The size of a request that names none. -/
  | defaultSize
  /-- The greatest size that is granted. -/
  | maxAllowedSize
  /-- The output has a line for every element and member. -/
  | pretty
  deriving DecidableEq, Repr

namespace Setting

/-- All settings, in the order in which their variables are read. -/
def all : List Setting :=
  [dialect, logLevel, pagination, start, defaultSize, maxAllowedSize, pretty]

/-- The name of the option. -/
def option : Setting → String
  | dialect => "dialect"
  | logLevel => "log-level"
  | pagination => "pagination"
  | start => "start"
  | defaultSize => "default-size"
  | maxAllowedSize => "max-allowed-size"
  | pretty => "pretty"

/-- The name of the variable. -/
def variableName : Setting → String
  | dialect => "SIFT_DIALECT"
  | logLevel => "SIFT_LOG_LEVEL"
  | pagination => "SIFT_PAGINATION"
  | start => "SIFT_PAGINATION_START"
  | defaultSize => "SIFT_DEFAULT_SIZE"
  | maxAllowedSize => "SIFT_MAX_ALLOWED_SIZE"
  | pretty => "SIFT_PRETTY"

end Setting

/-- The values that have been given so far. -/
structure GivenSettings where
  /-- The request. -/
  request? : Option String := none
  /-- The name of the dialect. -/
  dialect? : Option String := none
  /-- How much is logged. -/
  logLevel? : Option String := none
  /-- The name of the kind of pagination. -/
  pagination? : Option String := none
  /-- The position of the first row. -/
  start? : Option UInt64 := none
  /-- The size of a request that names none. -/
  defaultSize? : Option UInt64 := none
  /-- The greatest size that is granted. -/
  maxAllowedSize? : Option UInt64 := none
  /-- The output has a line for every element and member. -/
  pretty? : Option Bool := none
  deriving DecidableEq, Repr

namespace GivenSettings

/-- The setting has been given. -/
def has (given : GivenSettings) : Setting → Bool
  | .dialect => given.dialect?.isSome
  | .logLevel => given.logLevel?.isSome
  | .pagination => given.pagination?.isSome
  | .start => given.start?.isSome
  | .defaultSize => given.defaultSize?.isSome
  | .maxAllowedSize => given.maxAllowedSize?.isSome
  | .pretty => given.pretty?.isSome

/-- Reads a natural number of 64 bits: digits, with a plus sign in front of them or not. -/
def readNumber (text : String) : Except UsageError UInt64 :=
  let digits :=
    match text.toList with
    | '+' :: digits => digits
    | digits => digits
  let value := Text.digitsValue digits
  if digits ≠ [] ∧ digits.all Char.isDigit ∧ value < UInt64.size then .ok (UInt64.ofNat value)
  else .error .invalidNumber

/-- Reads a truth value. -/
def readTruth (text : String) : Except UsageError Bool :=
  if text = "true" then .ok true
  else if text = "false" then .ok false
  else .error .invalidValue

/-- Gives a setting the value that a text writes. -/
def give (given : GivenSettings) (setting : Setting) (text : String) :
    Except UsageError GivenSettings := do
  match setting with
  | .dialect => return { given with dialect? := some text }
  | .logLevel => return { given with logLevel? := some text }
  | .pagination => return { given with pagination? := some text }
  | .start => return { given with start? := some (← readNumber text) }
  | .defaultSize => return { given with defaultSize? := some (← readNumber text) }
  | .maxAllowedSize => return { given with maxAllowedSize? := some (← readNumber text) }
  | .pretty => return { given with pretty? := some (← readTruth text) }

/-- Gives a setting the value of its option, which must not be given twice. -/
def giveOnce (given : GivenSettings) (setting : Setting) (text : String) :
    Except UsageError GivenSettings :=
  if given.has setting then .error .repeatedOption else given.give setting text

end GivenSettings

/-- How far the arguments have been read. -/
structure ArgumentState where
  /-- The values that have been given. -/
  given : GivenSettings := {}
  /-- The option that was named last, and its value if that has been read.  It takes effect only
  when another argument is accepted, so an unknown argument behind it is reported first. -/
  pending? : Option (Setting × Option String) := none
  /-- All further arguments name the request. -/
  onlyRequest : Bool := false
  deriving DecidableEq, Repr

namespace ArgumentState

/-- The pending option takes effect; without a value it is an error. -/
def settle (state : ArgumentState) : Except UsageError ArgumentState :=
  match state.pending? with
  | none => .ok state
  | some (_, none) => .error .invalidValue
  | some (setting, some text) => do
      return { state with given := ← state.given.giveOnce setting text, pending? := none }

/-- The argument names the request, which is named once. -/
def readRequest (state : ArgumentState) (argument : String) : Except UsageError ArgumentState := do
  if state.given.request?.isSome then throw .unknownArgument
  let state ← state.settle
  return { state with given := { state.given with request? := some argument } }

/-- Reads an option whose name stands behind two dashes, with or without an attached value. -/
def readOption (state : ArgumentState) (name : String) (attached? : Option String) :
    Except UsageError ArgumentState := do
  if name = "help" then
    if attached?.isSome then throw .unwantedValue
    let _ ← state.settle
    throw .helpRequested
  match Setting.all.find? (·.option == name), attached? with
  | none, _ => throw .unknownArgument
  | some .pretty, some _ => throw .unwantedValue
  | some .pretty, none => do
      let state ← state.settle
      return { state with given := ← state.given.giveOnce .pretty "true" }
  | some setting, some text => do
      let state ← state.settle
      return { state with given := ← state.given.giveOnce setting text }
  | some setting, none => do
      let state ← state.settle
      return { state with pending? := some (setting, none) }

/-- Reads one argument. -/
def readArgument (state : ArgumentState) (argument : String) :
    Except UsageError ArgumentState :=
  if state.onlyRequest then state.readRequest argument
  else
    match argument.toList with
    | ['-', '-'] => .ok { state with onlyRequest := true }
    | '-' :: '-' :: rest =>
        let name := rest.takeWhile (· != '=')
        let attached? := (rest.dropWhile (· != '=')).tail?.map String.ofList
        state.readOption (String.ofList name) attached?
    | '-' :: 'h' :: _ => do
        let _ ← state.settle
        throw .helpRequested
    | '-' :: _ :: _ => .error .unknownArgument
    | _ =>
        match state.pending? with
        | some (setting, none) => .ok { state with pending? := some (setting, some argument) }
        | _ => state.readRequest argument

end ArgumentState

/-- The settings of a run. -/
structure Settings where
  /-- The file with the request, or a dash for the standard input. -/
  request : String
  /-- The name of the dialect. -/
  dialect : String
  /-- How much is logged. -/
  logLevel : String
  /-- The name of the kind of pagination. -/
  pagination : String
  /-- The position of the first row. -/
  start : UInt64
  /-- The size of a request that names none. -/
  defaultSize : UInt64
  /-- The greatest size that is granted. -/
  maxAllowedSize : UInt64
  /-- The output has a line for every element and member. -/
  pretty : Bool
  deriving DecidableEq, Repr

namespace Settings

/-- Gives a setting the value of its variable, unless it has been given already. -/
def readVariable (environment : List (String × String)) (given : GivenSettings)
    (setting : Setting) : Except UsageError GivenSettings :=
  if given.has setting then .ok given
  else
    match environment.lookup setting.variableName with
    | some text => given.give setting text
    | none => .ok given

/-- The settings that arguments and variables give. -/
def ofArguments (arguments : List String) (environment : List (String × String)) :
    Except UsageError Settings := do
  let state ← arguments.foldlM ArgumentState.readArgument {}
  let state ← state.settle
  let given ← Setting.all.foldlM (readVariable environment) state.given
  match given.request? with
  | none => throw .missingRequest
  | some request =>
      return {
        request
        dialect := given.dialect?.getD "mysql"
        logLevel := given.logLevel?.getD "info"
        pagination := given.pagination?.getD "page"
        start := given.start?.getD 0
        defaultSize := given.defaultSize?.getD 15
        maxAllowedSize := given.maxAllowedSize?.getD 100
        pretty := given.pretty?.getD false }

/-- The dialect, if its name is known. -/
def dialectKind (settings : Settings) : Except SearchError Dialect :=
  Dialect.ofName settings.dialect

/-- How requests are paginated, if the kind is known. -/
def paginationKind (settings : Settings) : Except SearchError PaginationKind :=
  PaginationKind.ofName settings.pagination

/-- How requests are paginated, if the kind is known. -/
def requestPagination (settings : Settings) : Except SearchError Pagination := do
  return {
    kind := ← settings.paginationKind
    start := settings.start
    maxAllowedSize := settings.maxAllowedSize
    defaultSize := settings.defaultSize }

/-- The message of a failure, or nothing. -/
def problemOf {α : Type} : Except SearchError α → List String
  | .ok _ => []
  | .error error => [error.message]

/-- Everything that is wrong with the settings. -/
def problems (settings : Settings) : List String :=
  (if settings.defaultSize = 0 then ["Default size cannot be 0"] else []) ++
    (if settings.maxAllowedSize < settings.defaultSize then
      ["Default size cannot exceed max allowed size"] else []) ++
    problemOf settings.dialectKind ++ problemOf settings.requestPagination

end Settings

end EntitySearch
