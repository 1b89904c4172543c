import EntitySearch.Error
import EntitySearch.Text.Upper

/-!
# Filter operators

The thirteen operators of filters, with the names and the short codes they are read from.
-/

namespace EntitySearch

/-- What a filter asks of a column. -/
inductive Operator where
  /-- The column is the value. -/
  | equal
  /-- The column is not the value. -/
  | notEqual
  /-- The column is greater than the value. -/
  | greaterThan
  /-- The column is not less than the value. -/
  | greaterEqual
  /-- The column is less than the value. -/
  | lessThan
  /-- The column is not greater than the value. -/
  | lessEqual
  /-- The column contains the value's text. -/
  | contains
  /-- The column starts with the value's text. -/
  | startsWith
  /-- The column ends with the value's text. -/
  | endsWith
  /-- The column lies between two values, each of which may be left out. -/
  | between
  /-- The column is null. -/
  | empty
  /-- The column is not null. -/
  | notEmpty
  /-- The column is one of the values. -/
  | oneOf
  deriving DecidableEq, Repr

namespace Operator

/-- All operators. -/
def all : List Operator :=
  [equal, notEqual, greaterThan, greaterEqual, lessThan, lessEqual, contains, startsWith, endsWith,
    between, empty, notEmpty, oneOf]

/-- The name of the operator. -/
def name : Operator → String
  | equal => "Equal"
  | notEqual => "NotEqual"
  | greaterThan => "GreaterThan"
  | greaterEqual => "GreaterEqual"
  | lessThan => "LessThan"
  | lessEqual => "LessEqual"
  | contains => "Include"
  | startsWith => "StartWith"
  | endsWith => "EndWith"
  | between => "Between"
  | empty => "Empty"
  | notEmpty => "NotEmpty"
  | oneOf => "MultiValue"

/-- The short code of the operator. -/
def code : Operator → String
  | equal => "eq"
  | notEqual => "ne"
  | greaterThan => "gt"
  | greaterEqual => "ge"
  | lessThan => "lt"
  | lessEqual => "le"
  | contains => "il"
  | startsWith => "sw"
  | endsWith => "ew"
  | between => "bt"
  | empty => "ey"
  | notEmpty => "ny"
  | oneOf => "mv"

/-- The operator with a code, or with a name in any case of its letters. -/
def ofName? (name : String) : Option Operator :=
  all.find? fun operator => operator.code == name || Text.equalsIgnoringCase operator.name name

/-- The operator with a name or code, or the error that there is none. -/
def ofName (name : String) : Except SearchError Operator :=
  match ofName? name with
  | some operator => .ok operator
  | none => .error (.unknownOperator name)

theorem mem_all (operator : Operator) : operator ∈ all := by
  cases operator <;> simp [all]

theorem ofName?_code (operator : Operator) : ofName? operator.code = some operator := by
  cases operator <;> decide

theorem ofName?_name (operator : Operator) : ofName? operator.name = some operator := by
  cases operator <;> decide

end Operator

end EntitySearch
