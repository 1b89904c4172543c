import EntitySearch.Json.Number
import EntitySearch.Json.Quoted

/-!
# Reading JSON text

A reader takes a value of its type from the start of the text.  Text is read once from left to
right, so the first error decides.  Arrays and objects may be nested to a limited depth; members of
objects that nobody asks for are skipped whatever their depth.
-/

namespace EntitySearch.Json

/-- A reader of a type: it knows how many more levels of arrays and objects it may open, and takes
its value from the start of the text. -/
abbrev Reader (α : Type) : Type := ReaderT Nat (StateT (List Char) (Except ReadError)) α

namespace Reader

/-- How many arrays and objects may be open at once. -/
def maxDepth : Nat := 127

/-- White space between the parts of JSON text. -/
def isSpace (char : Char) : Bool := char == ' ' || char == '\n' || char == '\t' || char == '\r'

/-- Fails with an error. -/
def fail {α : Type} (error : ReadError) : Reader α := throw error

/-- Fails because something else is wanted. -/
def failWith {α : Type} (difference : Mismatch) : Reader α := throw (.mismatch difference)

/-- Reads with a function from the text to a value and the rest of the text. -/
def lift {α : Type} (read : List Char → Except ReadError (α × List Char)) : Reader α :=
  fun _ text => read text

/-- The first character behind white space, which stays in the text. -/
def peek? : Reader (Option Char) :=
  fun _ text =>
    let rest := text.dropWhile isSpace
    .ok (rest.head?, rest)

/-- The first character behind white space, which must be there and stays in the text. -/
def peek : Reader Char := do
  match ← peek? with
  | some char => return char
  | none => fail .endOfText

/-- Drops the first character of the text. -/
def advance : Reader Unit := fun _ text => .ok ((), text.tail)

/-- Reads exactly these characters. -/
def word (wanted : List Char) : Reader Unit := do
  for char in wanted do
    lift fun text => do return ((), ← Quoted.expect char text)

/-- Reads one character behind white space. -/
def mark (wanted : Char) : Reader Unit := do
  if (← peek) = wanted then advance else fail .malformed

/-- Reads a number whose first character has been seen. -/
def number : Reader Number :=
  lift fun text =>
    match text with
    | '-' :: rest => Number.read true rest
    | text => Number.read false text

/-- Reads a string whose opening quote has been seen. -/
def quoted : Reader String := do
  advance
  lift Quoted.read

/-- Runs a reader one level deeper. -/
def nested {α : Type} (reader : Reader α) : Reader α :=
  fun levels text =>
    match levels with
    | 0 => .error .malformed
    | levels + 1 => reader levels text

/-- What stands at the start of the text, a scalar to its end. -/
def found : Reader Found := do
  match ← peek with
  | 'n' => word "null".toList; return .null
  | 't' => word "true".toList; return .boolean true
  | 'f' => word "false".toList; return .boolean false
  | '"' => return .text (← quoted)
  | '[' => return .sequence
  | '\x7b' => return .map
  | char => if char = '-' ∨ char.isDigit then return (← number).found else fail .malformed

/-- Fails because something else is wanted than what stands at the start of the text. -/
def failUnless {α : Type} (wanted : String) : Reader α := do
  failWith (.wrongType (← found) wanted)

/-- Reads a text. -/
def string (wanted : String) : Reader String := do
  if (← peek) = '"' then quoted else failUnless wanted

/-- Reads a text as it is. -/
def text : Reader String := string "a string"

/-- Reads a truth value. -/
def boolean : Reader Bool := do
  match ← peek with
  | 't' => word "true".toList; return true
  | 'f' => word "false".toList; return false
  | _ => failUnless "a boolean"

/-- Reads a natural number of 64 bits. -/
def natural : Reader UInt64 := do
  match ← found with
  | .integer value =>
      if 0 ≤ value then return UInt64.ofNat value.toNat
      else failWith (.wrongValue (.integer value) "u64")
  | other => failWith (.wrongType other "u64")

/-- Reads a value that may be `null`. -/
def optional {α : Type} (reader : Reader α) : Reader (Option α) := do
  if (← peek?) = some 'n' then
    word "null".toList
    return none
  else
    return some (← reader)

/-- Whether another element of an array follows; `first` says that none has been read. -/
def hasElement (first : Bool) : Reader Bool := do
  match ← peek with
  | ']' => return false
  | ',' =>
      if first then return true
      advance
      if (← peek) = ']' then fail .malformed else return true
  | _ => if first then return true else fail .malformed

/-- Whether another member of an object follows, whose opening quote is then the next character. -/
def hasMember (first : Bool) : Reader Bool := do
  match ← peek with
  | '\x7d' => return false
  | ',' =>
      if first then fail .malformed
      advance
      if (← peek) = '"' then return true else fail .malformed
  | '"' => if first then return true else fail .malformed
  | _ => fail .malformed

/-- Reads elements, at most a limited number, up to the closing bracket. -/
def elements {σ : Type} (element : σ → Reader σ) : Nat → Bool → σ → Reader σ
  | 0, _, _ => fail .endOfText
  | limit + 1, first, state => do
      if ← hasElement first then
        elements element limit false (← element state)
      else
        advance
        return state

/-- Reads members, at most a limited number, up to the closing brace.  A member is read behind its
name. -/
def members {σ : Type} (member : String → σ → Reader σ) : Nat → Bool → σ → Reader σ
  | 0, _, _ => fail .endOfText
  | limit + 1, first, state => do
      if ← hasMember first then
        let name ← quoted
        members member limit false (← member name state)
      else
        advance
        return state

/-- A number that more elements or members than the text can hold do not reach. -/
def limit : Reader Nat := fun _ text => .ok (text.length + 1, text)

/-- Reads an array whose opening bracket has been seen. -/
def array {σ : Type} (element : σ → Reader σ) (initial : σ) : Reader σ :=
  nested do
    advance
    elements element (← limit) true initial

/-- Reads an object whose opening brace has been seen. -/
def object {σ : Type} (member : String → σ → Reader σ) (initial : σ) : Reader σ :=
  nested do
    advance
    members member (← limit) true initial

/-- Reads an array of values of one type. -/
def list {α : Type} (reader : Reader α) : Reader (List α) := do
  if (← peek) = '[' then
    let reversed ← array (fun read => do return (← reader) :: read) []
    return reversed.reverse
  else failUnless "a sequence"

/-- The kind of bracket that an array or an object opens. -/
inductive Bracket where
  /-- That of an array. -/
  | square
  /-- That of an object. -/
  | curly
  deriving DecidableEq, Repr

/-- What comes next in a value that is skipped. -/
inductive SkipGoal where
  /-- A value. -/
  | value
  /-- The first element or member, or the closing bracket. -/
  | first
  /-- A comma and more, or the closing bracket. -/
  | more
  deriving DecidableEq, Repr

/-- Skips the name of a member and the colon behind it. -/
def skipName : Reader Unit := do
  mark '"'
  lift fun text => do return ((), ← Quoted.skip text)
  mark ':'

/-- Skips a value with some brackets open, in at most a limited number of steps. -/
def skipSteps : Nat → SkipGoal → List Bracket → Reader Unit
  | 0, _, _ => fail .endOfText
  | _ + 1, .more, [] | _ + 1, .first, [] => return ()
  | steps + 1, .value, brackets => do
      match ← peek with
      | 'n' => word "null".toList; skipSteps steps .more brackets
      | 't' => word "true".toList; skipSteps steps .more brackets
      | 'f' => word "false".toList; skipSteps steps .more brackets
      | '"' =>
          advance
          lift fun text => do return ((), ← Quoted.skip text)
          skipSteps steps .more brackets
      | '[' => advance; skipSteps steps .first (.square :: brackets)
      | '\x7b' => advance; skipSteps steps .first (.curly :: brackets)
      | '-' =>
          advance
          lift fun text => do return ((), ← Number.skip text)
          skipSteps steps .more brackets
      | char =>
          if char.isDigit then
            lift fun text => do return ((), ← Number.skip text)
            skipSteps steps .more brackets
          else fail .malformed
  | steps + 1, goal, bracket :: brackets => do
      let closing := if bracket = .square then ']' else '\x7d'
      let char ← peek
      if char = closing then
        advance
        skipSteps steps .more brackets
      else
        if goal = .more then
          if char = ',' then advance else fail .malformed
        if bracket = .curly then skipName
        skipSteps steps .value (bracket :: brackets)

/-- Skips a value of any type and depth. -/
def skip : Reader Unit := do
  skipSteps (2 * (← limit)) .value []

/-- Reads the null that may stand behind the name of a variant. -/
def null : Reader Unit := do
  if (← peek) = 'n' then word "null".toList else failUnless "unit"

/-- Reads the name of a variant, alone or as the only member of an object with the value `null`. -/
def variant {α : Type} (variants : List (String × α)) : Reader α := do
  let choose (name : String) : Reader α :=
    match variants.lookup name with
    | some value => return value
    | none => failWith (.unknownVariant name (variants.map (·.1)))
  match ← peek with
  | '"' => choose (← quoted)
  | '\x7b' =>
      let value ← nested do
        advance
        let value ← choose (← string "variant identifier")
        mark ':'
        null
        return value
      mark '\x7d'
      return value
  | _ => fail .malformed

/-- Reads the whole text. -/
def run {α : Type} (reader : Reader α) (text : String) : Except ReadError α := do
  let (value, rest) ← (reader maxDepth).run text.toList
  if rest.all isSpace then return value else throw .malformed

end Reader

end EntitySearch.Json
