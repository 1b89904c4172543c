import EntitySearch.Text.Upper

/-!
# Field types

The type of an entity's field.  Only the temporal types matter to a search: the values of their
filters are corrected before they are bound.
-/

namespace EntitySearch

/-- The type of a field's values. -/
inductive FieldType where
  /-- Character data. -/
  | text
  /-- An integer of 32 bits. -/
  | integer
  /-- An integer of 64 bits. -/
  | long
  /-- A number of single precision. -/
  | float
  /-- A number of double precision. -/
  | double
  /-- An exact decimal. -/
  | decimal
  /-- A truth value. -/
  | boolean
  /-- A calendar date. -/
  | date
  /-- A date and a time of day. -/
  | dateTime
  /-- A time of day. -/
  | time
  deriving DecidableEq, Repr

namespace FieldType

/-- The name that the type is written with. -/
def name : FieldType → String
  | text => "text"
  | integer => "integer"
  | long => "long"
  | float => "float"
  | double => "double"
  | decimal => "decimal"
  | boolean => "bool"
  | date => "date"
  | dateTime => "datetime"
  | time => "time"

/-- The names that the types are read from. -/
def readNames : List (String × FieldType) :=
  [("text", text), ("string", text), ("integer", integer), ("int", integer), ("long", long),
    ("float", float), ("double", double), ("decimal", decimal), ("bool", boolean),
    ("boolean", boolean), ("date", date), ("datetime", dateTime), ("timestamp", dateTime),
    ("time", time)]

/-- The type with a name, in any case of its letters.  Folding ASCII letters is enough, as no other
character has a lower case that is made of letters of these names. -/
def ofName? (name : String) : Option FieldType :=
  (readNames.find? fun entry => Text.equalsIgnoringCase entry.1 name).map (·.2)

/-- Values of the type are dates or times. -/
def isTemporal : FieldType → Bool
  | date | dateTime | time => true
  | _ => false

/-- What is said of a name that no type has. -/
def unknownMessage (name : String) : String := "unknown field type: " ++ name

theorem ofName?_name (type : FieldType) : ofName? type.name = some type := by
  cases type <;> decide

end FieldType

end EntitySearch
