import EntitySearch.Correction
import EntitySearch.Dialect
import EntitySearch.Entity.FieldType

/-!
# Conditions

A filter becomes a condition on a column.  Temporal values are corrected first; when upper and lower
case count as equal, texts are then put in upper case and the column is folded.  A filter that
restricts nothing has no condition.
-/

namespace EntitySearch

namespace Condition

/-- The first value that is not null, or null when there is none. -/
def firstValue (values : List Value) : Value := (values.find? fun value => !value.isNull).getD .null

/-- The column compared with a value. -/
def compare (column sign : String) (value : Value) : Fragment :=
  ⟨column ++ " " ++ sign ++ " ?", [value]⟩

/-- The column is null. -/
def isNull (column : String) : Fragment := .ofText (column ++ " is null")

/-- The column is not null. -/
def isNotNull (column : String) : Fragment := .ofText (column ++ " is not null")

/-- The pattern of the texts with the value's text somewhere between `before` and `after`; there is
none for null. -/
def pattern (before after : String) : Value → Value
  | .null => .null
  | value => .text (before ++ value.display ++ after)

/-- The column matches a pattern around a value. -/
def like (column before after : String) (value : Value) : Fragment :=
  ⟨column ++ " like ?", [pattern before after value]⟩

/-- The column lies between the first two values; a blank one leaves its side open. -/
def between? (column : String) (values : List Value) : Option Fragment :=
  let lower? := values[0]?.filter fun value => !value.isBlank
  let upper? := values[1]?.filter fun value => !value.isBlank
  match lower?, upper? with
  | some lower, some upper => some ⟨column ++ " between ? and ?", [lower, upper]⟩
  | some lower, none => some (compare column ">=" lower)
  | none, some upper => some (compare column "<=" upper)
  | none, none => none

/-- The column is the value; the plain column is tested for null, the folded one is compared. -/
def isValue (column folded : String) (value : Value) : Fragment :=
  if value.isNull then isNull column else compare folded "=" value

/-- The column is one of the values. -/
def oneOf? (column folded : String) (values : List Value) : Option Fragment :=
  if values.isEmpty then none
  else some ((Fragment.join " or " (values.map (isValue column folded))).wrap "(" ")")

/-- What an operator asks of a column that is written in two ways, plain and as it is compared. -/
def ofOperator? (operator : Operator) (column compared : String) (values : List Value) :
    Option Fragment :=
  match operator with
  | .equal => some (compare compared "=" (firstValue values))
  | .notEqual => some (compare compared "!=" (firstValue values))
  | .greaterThan => some (compare compared ">" (firstValue values))
  | .greaterEqual => some (compare compared ">=" (firstValue values))
  | .lessThan => some (compare compared "<" (firstValue values))
  | .lessEqual => some (compare compared "<=" (firstValue values))
  | .contains => some (like compared "%" "%" (firstValue values))
  | .startsWith => some (like compared "" "%" (firstValue values))
  | .endsWith => some (like compared "%" "" (firstValue values))
  | .between => between? compared values
  | .empty => some (isNull compared)
  | .notEmpty => some (isNotNull compared)
  | .oneOf => oneOf? column compared values

end Condition

namespace Filter

/-- The values that the filter binds: corrected if the field is temporal, and in upper case if case
does not count. -/
def boundValues (filter : Filter) (type : FieldType) (correction : Correction) : List Value :=
  let corrected :=
    if type.isTemporal then correction.apply filter.operator filter.values else filter.values
  if filter.ignoreCase then corrected.map Value.upper else corrected

/-- The column as the filter compares it. -/
def comparedColumn (filter : Filter) (column : String) (dialect : Dialect) : String :=
  if filter.ignoreCase then dialect.foldCase column else column

/-- The condition of the filter on a column of a type, unless the filter restricts nothing. -/
def condition? (filter : Filter) (type : FieldType) (column : String) (dialect : Dialect)
    (correction : Correction) : Option Fragment :=
  Condition.ofOperator? filter.operator column (filter.comparedColumn column dialect)
    (filter.boundValues type correction)

end Filter

end EntitySearch
