import EntitySearch.Decimal.Layout
import EntitySearch.Text.Quoted
import EntitySearch.Text.Substring

/-!
# What can be wrong with JSON text

JSON text that is read as a value of some type may not be JSON at all, may end too early, or may be
JSON of another type.  The last case says what stands where something else is wanted.
-/

namespace EntitySearch.Json

/-- What stands where something else is wanted. -/
inductive Found where
  /-- The word `null`. -/
  | null
  /-- A truth value. -/
  | boolean (value : Bool)
  /-- An integer of 64 bits, with or without a sign. -/
  | integer (value : Int)
  /-- Any other number. -/
  | double (value : Double)
  /-- A text. -/
  | text (value : String)
  /-- An array. -/
  | sequence
  /-- An object. -/
  | map
  deriving DecidableEq, Repr

namespace Found

/-- The found thing in words. -/
def describe : Found → String
  | null => "null"
  | boolean value => "boolean `" ++ (if value then "true" else "false") ++ "`"
  | integer value => "integer `" ++ String.ofList (Text.signedNumeral value) ++ "`"
  | double value => "floating point `" ++ String.ofList (DoubleLayout.json.text value) ++ "`"
  | text value => "string " ++ Text.quoted value
  | sequence => "sequence"
  | map => "map"

end Found

/-- How JSON differs from the type that it is read as. -/
inductive Mismatch where
  /-- Another kind of value is wanted. -/
  | wrongType (found : Found) (wanted : String)
  /-- Another value of the kind is wanted. -/
  | wrongValue (found : Found) (wanted : String)
  /-- An object lacks a member. -/
  | missingField (name : String)
  /-- An object has a member twice. -/
  | repeatedField (name : String)
  /-- An array in place of an object is too short. -/
  | wrongLength (length : Nat) (typeName : String) (fields : Nat)
  /-- A name is none of those that are allowed. -/
  | unknownVariant (name : String) (variants : List String)
  /-- A value fits none of a type's forms. -/
  | noVariant (typeName : String)
  /-- A text does not write a value of its type. -/
  | unreadable (message : String)
  deriving DecidableEq, Repr

namespace Mismatch

/-- A list of allowed names: two are joined, more are enumerated. -/
def expectedNames (names : List String) : String :=
  let marked := names.map fun name => "`" ++ name ++ "`"
  match marked with
  | [only] => only
  | [first, second] => first ++ " or " ++ second
  | marked => "one of " ++ String.intercalate ", " marked

/-- The text writes a number of 64 bits. -/
def isCount (text : List Char) : Bool :=
  !text.isEmpty && text.all Char.isDigit && Text.digitsValue text < UInt64.size

/-- The text writes the line and the column of a position, behind the word for the line. -/
def isPosition (text : List Char) : Bool :=
  match Text.splitAtLast? " column ".toList text with
  | some (line, column) => isCount line && isCount column
  | none => false

/-- A message without the position that it ends in.  Positions are reported apart from messages, so
the text of a document that looks like one at the end of a message is taken for one. -/
def withoutPosition (message : String) : String :=
  match Text.splitAtLast? " at line ".toList message.toList with
  | some (before, behind) => if isPosition behind then String.ofList before else message
  | none => message

/-- The difference in words. -/
def message : Mismatch → String
  | wrongType found wanted => "invalid type: " ++ found.describe ++ ", expected " ++ wanted
  | wrongValue found wanted => "invalid value: " ++ found.describe ++ ", expected " ++ wanted
  | missingField name => "missing field `" ++ name ++ "`"
  | repeatedField name => "duplicate field `" ++ name ++ "`"
  | wrongLength length typeName fields =>
      "invalid length " ++ String.ofList (Text.numeral length) ++ ", expected struct " ++
        typeName ++ " with " ++ String.ofList (Text.numeral fields) ++
        (if fields = 1 then " element" else " elements")
  | unknownVariant name variants =>
      "unknown variant `" ++ name ++ "`, expected " ++ expectedNames variants
  | noVariant typeName => "data did not match any variant of untagged enum " ++ typeName
  | unreadable message => withoutPosition message

end Mismatch

/-- Why JSON text cannot be read as a value of some type. -/
inductive ReadError where
  /-- The text is not JSON, or has a number or nesting beyond what is read. -/
  | malformed
  /-- The text ends too early. -/
  | endOfText
  /-- The text is JSON of another type. -/
  | mismatch (difference : Mismatch)
  deriving DecidableEq, Repr

namespace ReadError

/-- The error in words. -/
def message : ReadError → String
  | malformed => "the text is not JSON"
  | endOfText => "the text ends too early"
  | mismatch difference => difference.message

end ReadError

end EntitySearch.Json
