import EntitySearch.Calendar.Pattern
import EntitySearch.Search

/-!
# Correction of temporal values

Before a filter on a temporal field is compiled, its values may be corrected: texts that name a date
or an instant become timestamps.  A day stands for its first second, or for its last one where it
is the upper end of a range, so that the range takes in the whole day.  Other texts stay as they
are written.
-/

namespace EntitySearch

/-- What a text names in time. -/
inductive DateReading where
  /-- A whole day. -/
  | day (date : Date)
  /-- An instant, to the minute or finer. -/
  | instant (timestamp : Timestamp)
  deriving DecidableEq, Repr

namespace DateReading

/-- A day, if the text is one. -/
def ofDay? (text : List Char) : Option DateReading :=
  ((Pattern.read? Pattern.day text).bind DateTimeParts.date?).map day

/-- The instant that a pattern reads. -/
def ofPattern? (text : List Char) (pattern : List PatternItem) : Option DateReading :=
  ((Pattern.read? pattern text).bind DateTimeParts.timestamp?).map instant

/-- The day or instant that a text names, whatever white space is around it. -/
def ofText? (text : String) : Option DateReading :=
  let trimmed := Text.trim text.toList
  ofDay? trimmed <|> Pattern.dayTimes.findSome? (ofPattern? trimmed) <|>
    (Timestamp.ofRfc3339? trimmed).map instant

/-- The text is a time of day alone, to the second or to the minute, whatever white space is around
it.  It belongs to no day, so it is not corrected. -/
def isTimeOfDay (text : String) : Bool :=
  let trimmed := Text.trim text.toList
  [Pattern.seconds, Pattern.minutes].any fun pattern =>
    ((Pattern.read? pattern trimmed).bind DateTimeParts.time?).isSome

/-- The timestamp that bounds a range from below, or from above. -/
def bound (upper : Bool) : DateReading → Timestamp
  | day date => ⟨date, if upper then Time.endOfDay else Time.startOfDay⟩
  | instant timestamp => timestamp

end DateReading

/-- How the values of filters on temporal fields are corrected. -/
inductive Correction where
  /-- They stay as they are. -/
  | none
  /-- Texts that name days and instants become timestamps. -/
  | dates
  deriving DecidableEq, Repr

namespace Correction

/-- The value at the position is the upper end of the operator's range. -/
def isUpperBound (operator : Operator) (position : Nat) : Bool :=
  operator == .lessEqual || (operator == .between && position == 1)

/-- A text that names a day or an instant as a timestamp; other values stay as they are. -/
def correctValue (upper : Bool) : Value → Value
  | .text text =>
      match DateReading.ofText? text with
      | some reading => .timestamp (reading.bound upper)
      | .none => .text text
  | value => value

/-- The corrected values of a filter. -/
def apply (correction : Correction) (operator : Operator) (values : List Value) : List Value :=
  match correction with
  | none => values
  | dates => values.mapIdx fun position => correctValue (isUpperBound operator position)

@[simp]
theorem apply_none (operator : Operator) (values : List Value) :
    none.apply operator values = values := rfl

@[simp]
theorem apply_length (correction : Correction) (operator : Operator) (values : List Value) :
    (correction.apply operator values).length = values.length := by
  cases correction <;> simp [apply]

end Correction

end EntitySearch
