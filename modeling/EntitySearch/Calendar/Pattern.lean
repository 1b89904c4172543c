import EntitySearch.Calendar.Timestamp
import EntitySearch.Text.Blank

/-!
# Reading dates and times

A pattern is a list of items that are read one after another.  A number may have white space in
front of it and need not have all of its digits; a blank stands for any white space, even none.
Whatever follows the last item makes the text unreadable.  RFC 3339 text has fixed widths and a
zone, and reads as the time in Greenwich.
-/

namespace EntitySearch

/-- One item of a pattern. -/
inductive PatternItem where
  /-- A year of up to four digits, or a signed one of any length. -/
  | year
  /-- A month. -/
  | month
  /-- A day of the month. -/
  | day
  /-- An hour. -/
  | hour
  /-- A minute. -/
  | minute
  /-- A second. -/
  | second
  /-- Nothing, or a point and the digits of a fraction of a second. -/
  | fraction
  /-- White space of any length, even none. -/
  | blank
  /-- One given character. -/
  | mark (char : Char)
  deriving DecidableEq, Repr

/-- The numbers that a pattern has read; the parts that it does not mention stay zero. -/
structure DateTimeParts where
  /-- The year. -/
  year : Int := 0
  /-- The month. -/
  month : Nat := 0
  /-- The day of the month. -/
  day : Nat := 0
  /-- The hour. -/
  hour : Nat := 0
  /-- The minute. -/
  minute : Nat := 0
  /-- The second. -/
  second : Nat := 0
  /-- The nanosecond. -/
  nanosecond : Nat := 0
  deriving DecidableEq, Repr

namespace DateTimeParts

/-- The date among the parts. -/
def date? (parts : DateTimeParts) : Option Date := Date.ofParts? parts.year parts.month parts.day

/-- The time of day among the parts. -/
def time? (parts : DateTimeParts) : Option Time :=
  Time.ofParts? parts.hour parts.minute parts.second parts.nanosecond

/-- The date and the time of day among the parts. -/
def timestamp? (parts : DateTimeParts) : Option Timestamp := do
  return ⟨← parts.date?, ← parts.time?⟩

end DateTimeParts

/-- A number of at least one and at most `most` digits at the start of the text, and the rest. -/
def number? (most : Nat) (text : List Char) : Option (Nat × List Char) :=
  let digits := (text.take most).takeWhile Char.isDigit
  if digits = [] then none else some (Text.digitsValue digits, text.drop digits.length)

/-- A number of exactly `width` digits at the start of the text, and the rest. -/
def fixedNumber? (width : Nat) (text : List Char) : Option (Nat × List Char) :=
  let digits := text.take width
  if digits.length = width ∧ digits.all Char.isDigit then
    some (Text.digitsValue digits, text.drop width)
  else none

/-- A year: at most four digits, or a sign and any number of them. -/
def year? : List Char → Option (Int × List Char)
  | '-' :: rest => (number? rest.length rest).map fun (value, rest) => (-(value : Int), rest)
  | '+' :: rest => (number? rest.length rest).map fun (value, rest) => ((value : Int), rest)
  | text => (number? 4 text).map fun (value, rest) => ((value : Int), rest)

/-- The digits of a fraction of a second in nanoseconds; digits after the ninth do not count. -/
def nanoseconds (digits : List Char) : Nat :=
  let kept := digits.take 9
  Text.digitsValue kept * Nat.pow 10 (9 - kept.length)

/-- A point and at least one digit of a fraction of a second, or nothing. -/
def fraction? : List Char → Option (Nat × List Char)
  | '.' :: rest =>
      let digits := rest.takeWhile Char.isDigit
      if digits = [] then none else some (nanoseconds digits, rest.drop digits.length)
  | text => some (0, text)

namespace PatternItem

/-- Reads one item and enters its number among the parts. -/
def read? (item : PatternItem) (parts : DateTimeParts) (text : List Char) :
    Option (DateTimeParts × List Char) :=
  let twoDigits (enter : Nat → DateTimeParts) : Option (DateTimeParts × List Char) :=
    (number? 2 (Text.trimStart text)).map fun (value, rest) => (enter value, rest)
  match item with
  | year =>
      (year? (Text.trimStart text)).map fun (value, rest) => ({ parts with year := value }, rest)
  | month => twoDigits fun value => { parts with month := value }
  | day => twoDigits fun value => { parts with day := value }
  | hour => twoDigits fun value => { parts with hour := value }
  | minute => twoDigits fun value => { parts with minute := value }
  | second => twoDigits fun value => { parts with second := value }
  | fraction =>
      (fraction? text).map fun (value, rest) => ({ parts with nanosecond := value }, rest)
  | blank => some (parts, Text.trimStart text)
  | mark char =>
      match text with
      | head :: rest => if head = char then some (parts, rest) else none
      | [] => none

end PatternItem

namespace Pattern

/-- Reads the items one after another. -/
def readItems? :
    List PatternItem → DateTimeParts → List Char → Option (DateTimeParts × List Char)
  | [], parts, text => some (parts, text)
  | item :: items, parts, text =>
      (item.read? parts text).bind fun (parts, rest) => readItems? items parts rest

/-- The parts that a pattern reads from the whole text. -/
def read? (pattern : List PatternItem) (text : List Char) : Option DateTimeParts :=
  match readItems? pattern {} text with
  | some (parts, []) => some parts
  | _ => none

/-- A day: year, month and day with dashes between them. -/
def day : List PatternItem := [.year, .mark '-', .month, .mark '-', .day]

/-- A time of day to the minute. -/
def minutes : List PatternItem := [.hour, .mark ':', .minute]

/-- A time of day to the second. -/
def seconds : List PatternItem := minutes ++ [.mark ':', .second]

/-- The patterns of a day with a time of day. -/
def dayTimes : List (List PatternItem) :=
  [day ++ .blank :: seconds, day ++ .mark 'T' :: seconds, day ++ .blank :: minutes,
    day ++ .mark 'T' :: minutes]

/-- A day and a time of day with an optional fraction of a second. -/
def iso : List PatternItem := day ++ .mark 'T' :: seconds ++ [.fraction]

end Pattern

namespace Timestamp

/-- One given character at the start of the text. -/
def skipMark? (char : Char) : List Char → Option (List Char)
  | head :: rest => if head = char then some rest else none
  | [] => none

/-- A zone as minutes ahead of Greenwich: `Z`, or a sign, two digits of hours, a colon and two
digits of minutes.  The sign may be the minus sign proper. -/
def zone? : List Char → Option (Int × List Char)
  | [] => none
  | sign :: rest =>
      if sign = 'Z' ∨ sign = 'z' then some (0, rest)
      else if sign = '+' ∨ sign = '-' ∨ sign = '\u2212' then do
        let (hours, rest) ← fixedNumber? 2 rest
        let rest ← skipMark? ':' rest
        let (minutes, rest) ← fixedNumber? 2 rest
        if hours < 24 ∧ minutes < 60 then
          let ahead : Int := hours * 60 + minutes
          return (if sign = '+' then ahead else -ahead, rest)
        else none
      else none

/-- The Greenwich time that RFC 3339 text names. -/
def ofRfc3339? (text : List Char) : Option Timestamp := do
  let (year, rest) ← fixedNumber? 4 text
  let rest ← skipMark? '-' rest
  let (month, rest) ← fixedNumber? 2 rest
  let rest ← skipMark? '-' rest
  let (day, rest) ← fixedNumber? 2 rest
  let rest ← skipMark? 'T' rest <|> skipMark? 't' rest <|> skipMark? ' ' rest
  let (hour, rest) ← fixedNumber? 2 rest
  let rest ← skipMark? ':' rest
  let (minute, rest) ← fixedNumber? 2 rest
  let rest ← skipMark? ':' rest
  let (second, rest) ← fixedNumber? 2 rest
  let (nanosecond, rest) ← fraction? rest
  let (ahead, rest) ← zone? rest
  let wallTime ← DateTimeParts.timestamp? { year, month, day, hour, minute, second, nanosecond }
  if rest = [] then wallTime.minutesEarlier? ahead else none

/-- The timestamp that text in the form of `isoText` names. -/
def ofIsoText? (text : String) : Option Timestamp :=
  (Pattern.read? Pattern.iso text.toList).bind DateTimeParts.timestamp?

end Timestamp

end EntitySearch
