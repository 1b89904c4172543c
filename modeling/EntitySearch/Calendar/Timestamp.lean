import EntitySearch.Calendar.Date

/-!
# Times of day and timestamps

A timestamp is a date and a time of day without a zone.  A minute may have a sixtieth second, the
leap second.
-/

namespace EntitySearch

/-- The parts are those of a time of day. -/
def IsTime (hour minute second nanosecond : Nat) : Prop :=
  hour < 24 ∧ minute < 60 ∧ second ≤ 60 ∧ nanosecond < 1000000000

instance (hour minute second nanosecond : Nat) :
    Decidable (IsTime hour minute second nanosecond) :=
  inferInstanceAs (Decidable (_ ∧ _ ∧ _ ∧ _))

/-- A time of day. -/
structure Time where
  /-- The hour, from 0 to 23. -/
  hour : Nat
  /-- The minute, from 0 to 59. -/
  minute : Nat
  /-- The second, from 0 to 59, or 60 in a leap second. -/
  second : Nat
  /-- The fraction of the second in nanoseconds. -/
  nanosecond : Nat
  /-- The parts are those of a time of day. -/
  isTime : IsTime hour minute second nanosecond
  deriving DecidableEq, Repr

namespace Time

/-- The time with these parts, if they are in range. -/
def ofParts? (hour minute second nanosecond : Nat) : Option Time :=
  if isTime : IsTime hour minute second nanosecond then
    some ⟨hour, minute, second, nanosecond, isTime⟩
  else none

/-- The first second of a day. -/
def startOfDay : Time := ⟨0, 0, 0, 0, by decide⟩

/-- The last whole second of a day. -/
def endOfDay : Time := ⟨23, 59, 59, 0, by decide⟩

/-- The time without the fraction of its second, with colons between its parts. -/
def wholeText (time : Time) : List Char :=
  Text.paddedNumeral 2 time.hour ++ ':' :: Text.paddedNumeral 2 time.minute ++
    ':' :: Text.paddedNumeral 2 time.second

/-- The fraction of the second with the fewest of no, three, six or nine digits that keep it. -/
def fractionText (time : Time) : List Char :=
  let nanosecond := time.nanosecond
  if nanosecond = 0 then []
  else if nanosecond % 1000000 = 0 then '.' :: Text.paddedNumeral 3 (nanosecond / 1000000)
  else if nanosecond % 1000 = 0 then '.' :: Text.paddedNumeral 6 (nanosecond / 1000)
  else '.' :: Text.paddedNumeral 9 nanosecond

theorem ofParts?_eq_some_iff (hour minute second nanosecond : Nat) (time : Time) :
    ofParts? hour minute second nanosecond = some time ↔
      time.hour = hour ∧ time.minute = minute ∧ time.second = second ∧
        time.nanosecond = nanosecond := by
  constructor
  · intro built
    rw [ofParts?] at built
    split at built
    · cases built
      exact ⟨rfl, rfl, rfl, rfl⟩
    · exact absurd built (by simp)
  · rintro ⟨rfl, rfl, rfl, rfl⟩
    simp [ofParts?, time.isTime]

end Time

/-- A date and a time of day without a zone. -/
structure Timestamp where
  /-- The date. -/
  date : Date
  /-- The time of day. -/
  time : Time
  deriving DecidableEq, Repr

namespace Timestamp

/-- The date, a blank and the time without the fraction of its second. -/
def display (timestamp : Timestamp) : String :=
  String.ofList (timestamp.date.text ++ ' ' :: timestamp.time.wholeText)

/-- The date, the letter `T` and the time with its fraction. -/
def isoText (timestamp : Timestamp) : String :=
  String.ofList
    (timestamp.date.text ++ 'T' :: timestamp.time.wholeText ++ timestamp.time.fractionText)

/-- The timestamp some minutes earlier, for less than a day.  Seconds do not take part, so a leap
second stays one. -/
def minutesEarlier? (timestamp : Timestamp) (minutes : Int) : Option Timestamp := do
  let total : Int := timestamp.time.hour * 60 + timestamp.time.minute - minutes
  let date ←
    if total < 0 then timestamp.date.previous?
    else if 1440 ≤ total then timestamp.date.next?
    else some timestamp.date
  let minuteOfDay := (total % 1440).toNat
  let time ← Time.ofParts? (minuteOfDay / 60) (minuteOfDay % 60) timestamp.time.second
    timestamp.time.nanosecond
  return ⟨date, time⟩

end Timestamp

end EntitySearch
