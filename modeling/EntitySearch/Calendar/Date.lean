import EntitySearch.Text.Numeral

/-!
# Calendar dates

Dates of the proleptic Gregorian calendar with astronomical year numbers, so there is a year zero
and negative years come before it.
-/

namespace EntitySearch

/-- The year has a 29th of February. -/
def isLeapYear (year : Int) : Bool :=
  year % 4 == 0 && (year % 100 != 0 || year % 400 == 0)

/-- The number of days of a month, zero when there is no such month. -/
def daysInMonth (year : Int) (month : Nat) : Nat :=
  match month with
  | 1 | 3 | 5 | 7 | 8 | 10 | 12 => 31
  | 4 | 6 | 9 | 11 => 30
  | 2 => if isLeapYear year then 29 else 28
  | _ => 0

/-- The day exists, and its year is one of those that dates can hold. -/
def IsDate (year : Int) (month day : Nat) : Prop :=
  -262143 ≤ year ∧ year ≤ 262142 ∧ 1 ≤ day ∧ day ≤ daysInMonth year month

instance (year : Int) (month day : Nat) : Decidable (IsDate year month day) :=
  inferInstanceAs (Decidable (_ ∧ _ ∧ _ ∧ _))

/-- A calendar date. -/
structure Date where
  /-- The astronomical year. -/
  year : Int
  /-- The month, from 1 to 12. -/
  month : Nat
  /-- The day of the month, from 1. -/
  day : Nat
  /-- The day exists. -/
  isDate : IsDate year month day
  deriving DecidableEq, Repr

namespace Date

/-- The date with these parts, if it exists. -/
def ofParts? (year : Int) (month day : Nat) : Option Date :=
  if isDate : IsDate year month day then some ⟨year, month, day, isDate⟩ else none

/-- The next day. -/
def next? (date : Date) : Option Date :=
  if date.day < daysInMonth date.year date.month then
    ofParts? date.year date.month (date.day + 1)
  else if date.month < 12 then
    ofParts? date.year (date.month + 1) 1
  else
    ofParts? (date.year + 1) 1 1

/-- The day before. -/
def previous? (date : Date) : Option Date :=
  if 1 < date.day then
    ofParts? date.year date.month (date.day - 1)
  else if 1 < date.month then
    ofParts? date.year (date.month - 1) (daysInMonth date.year (date.month - 1))
  else
    ofParts? (date.year - 1) 12 31

/-- Years from 0 to 9999 have four digits; all others have a sign and at least four digits. -/
def yearText (year : Int) : List Char :=
  let digits := Text.paddedNumeral 4 year.natAbs
  if year < 0 then '-' :: digits
  else if 9999 < year then '+' :: digits
  else digits

/-- The date as year, month and day with dashes between them. -/
def text (date : Date) : List Char :=
  yearText date.year ++ '-' :: Text.paddedNumeral 2 date.month ++
    '-' :: Text.paddedNumeral 2 date.day

theorem ofParts?_eq_some_iff (year : Int) (month day : Nat) (date : Date) :
    ofParts? year month day = some date ↔
      date.year = year ∧ date.month = month ∧ date.day = day := by
  constructor
  · intro built
    rw [ofParts?] at built
    split at built
    · cases built
      exact ⟨rfl, rfl, rfl⟩
    · exact absurd built (by simp)
  · rintro ⟨rfl, rfl, rfl⟩
    simp [ofParts?, date.isDate]

end Date

end EntitySearch
