import EntitySearch.Calendar.Timestamp
import EntitySearch.Decimal.Layout
import EntitySearch.Text.Blank
import EntitySearch.Text.Upper

/-!
# Values

The values that a statement binds to its placeholders, and the text they have where they become a
part of a pattern or of the statement itself.
-/

namespace EntitySearch

/-- A value bound to a placeholder. -/
inductive Value where
  /-- No value. -/
  | null
  /-- A truth value. -/
  | boolean (value : Bool)
  /-- An integer of 64 bits. -/
  | integer (value : Int64)
  /-- A double-precision number. -/
  | double (value : Double)
  /-- A text. -/
  | text (value : String)
  /-- A date and time without a zone. -/
  | timestamp (value : Timestamp)
  deriving DecidableEq, Repr

namespace Value

/-- A number of rows; numbers beyond the greatest integer become that one. -/
def count (rows : UInt64) : Value := .integer (Int64.ofIntClamp rows.toNat)

/-- The value is null. -/
def isNull (value : Value) : Bool := value == .null

/-- The value is null or blank text. -/
def isBlank : Value → Bool
  | null => true
  | text value => Text.isBlank value
  | _ => false

/-- The content of a text. -/
def text? : Value → Option String
  | text value => some value
  | _ => none

/-- Texts in upper case; other values stay as they are. -/
def upper : Value → Value
  | text value => text (Text.upper value)
  | value => value

/-- The value as a text. -/
def display : Value → String
  | null => "null"
  | boolean value => if value then "true" else "false"
  | integer value => String.ofList (Text.signedNumeral value.toInt)
  | double value => String.ofList (DoubleLayout.plain.text value)
  | text value => value
  | timestamp value => value.display

/-- The value as a part of a statement; null leaves nothing there. -/
def literal : Value → String
  | null => ""
  | value => value.display

@[simp]
theorem isNull_iff (value : Value) : value.isNull = true ↔ value = null := by
  simp [isNull]

end Value

end EntitySearch
