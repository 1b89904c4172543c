import EntitySearch.Calendar.Timestamp
import Mathlib.Data.Prod.Lex

/-!
# The order of time

Dates are ordered by year, month and day, times of day from the hour down to the nanosecond, and
timestamps by their dates first.  This is the order in which days follow one another: nothing lies
between a day and the next one.
-/

namespace EntitySearch

/-! ## Dates -/

theorem daysInMonth_le (year : Int) (month : Nat) : daysInMonth year month ≤ 31 := by
  fun_cases daysInMonth year month <;> omega

theorem isMonth_of_daysInMonth_pos {year : Int} {month : Nat} (days : 0 < daysInMonth year month) :
    1 ≤ month ∧ month ≤ 12 := by
  revert days
  fun_cases daysInMonth year month <;> omega

namespace Date

theorem day_le (date : Date) : date.day ≤ 31 := by
  obtain ⟨-, -, -, last⟩ := date.isDate
  exact last.trans (daysInMonth_le date.year date.month)

theorem isMonth (date : Date) : 1 ≤ date.month ∧ date.month ≤ 12 := by
  obtain ⟨-, -, first, last⟩ := date.isDate
  exact isMonth_of_daysInMonth_pos (Nat.lt_of_lt_of_le first last)

/-- The parts of the date, the most significant one first. -/
def key (date : Date) : Int ×ₗ Nat ×ₗ Nat := toLex (date.year, toLex (date.month, date.day))

theorem key_injective : Function.Injective key := by
  rintro ⟨⟩ ⟨⟩ same
  simpa [key] using same

instance : LinearOrder Date := LinearOrder.lift' key key_injective

theorem lt_iff {earlier later : Date} : earlier < later ↔
    earlier.year < later.year ∨ earlier.year = later.year ∧
      (earlier.month < later.month ∨ earlier.month = later.month ∧ earlier.day < later.day) := by
  change earlier.key < later.key ↔ _
  simp only [key, Prod.Lex.toLex_lt_toLex]

/-- The next day is the next one of the month, the first one of the next month, or New Year. -/
theorem next?_cases {date later : Date} (next : date.next? = some later) :
    (later.year = date.year ∧ later.month = date.month ∧ later.day = date.day + 1) ∨
    (date.day = daysInMonth date.year date.month ∧ later.day = 1 ∧
      (later.year = date.year ∧ later.month = date.month + 1 ∨
        later.year = date.year + 1 ∧ date.month = 12 ∧ later.month = 1)) := by
  have lastMonth := date.isMonth.2
  have lastDay : date.day ≤ daysInMonth date.year date.month := date.isDate.2.2.2
  rw [next?] at next
  split at next
  next withinMonth => exact .inl ((ofParts?_eq_some_iff ..).mp next)
  next monthEnds =>
    split at next
    all_goals
      obtain ⟨year, month, day⟩ := (ofParts?_eq_some_iff ..).mp next
      omega

/-- No day lies between a day and the next one. -/
theorem covBy_of_next? {date later : Date} (next : date.next? = some later) : date ⋖ later := by
  refine ⟨?_, fun between after before => ?_⟩
  · rw [lt_iff]
    have parts := next?_cases next
    omega
  · rw [lt_iff] at after before
    obtain ⟨firstMonth, lastMonth⟩ := between.isMonth
    obtain ⟨-, -, firstDay, lastDay⟩ := between.isDate
    rcases next?_cases next with sameMonth | ⟨monthEnds, laterMonth⟩
    · omega
    · -- a later day of the same month would be behind its last one
      have within (year : date.year = between.year) (month : date.month = between.month) :
          between.day ≤ date.day := by
        rwa [monthEnds, year, month]
      omega

end Date

/-! ## Times of day -/

namespace Time

/-- The parts of the time, the most significant one first. -/
def key (time : Time) : Nat ×ₗ Nat ×ₗ Nat ×ₗ Nat :=
  toLex (time.hour, toLex (time.minute, toLex (time.second, time.nanosecond)))

theorem key_injective : Function.Injective key := by
  rintro ⟨⟩ ⟨⟩ same
  simpa [key] using same

instance : LinearOrder Time := LinearOrder.lift' key key_injective

theorem lt_iff {earlier later : Time} : earlier < later ↔
    earlier.hour < later.hour ∨ earlier.hour = later.hour ∧
      (earlier.minute < later.minute ∨ earlier.minute = later.minute ∧
        (earlier.second < later.second ∨ earlier.second = later.second ∧
          earlier.nanosecond < later.nanosecond)) := by
  change earlier.key < later.key ↔ _
  simp only [key, Prod.Lex.toLex_lt_toLex]

theorem startOfDay_le (time : Time) : startOfDay ≤ time := by
  rw [← not_lt, lt_iff]
  simp [startOfDay]

/-- The time is behind the start of the last second of a day. -/
def InLastSecond (time : Time) : Prop :=
  time.hour = 23 ∧ time.minute = 59 ∧ time.second = 59 ∧ 0 < time.nanosecond

/-- Without a leap second, only the fractions of the last second are later than its start. -/
theorem endOfDay_lt_iff {time : Time} (regular : time.second < 60) :
    endOfDay < time ↔ time.InLastSecond := by
  obtain ⟨hour, minute, -, -⟩ := time.isTime
  rw [lt_iff, InLastSecond]
  simp only [endOfDay]
  omega

end Time

/-! ## Timestamps -/

namespace Timestamp

/-- The date and the time of day. -/
def key (timestamp : Timestamp) : Date ×ₗ Time := toLex (timestamp.date, timestamp.time)

theorem key_injective : Function.Injective key := by
  rintro ⟨⟩ ⟨⟩ same
  simpa [key] using same

instance : LinearOrder Timestamp := LinearOrder.lift' key key_injective

theorem lt_iff {earlier later : Timestamp} : earlier < later ↔
    earlier.date < later.date ∨ earlier.date = later.date ∧ earlier.time < later.time := by
  change earlier.key < later.key ↔ _
  simp only [key, Prod.Lex.toLex_lt_toLex]

/-- What is before the first instant of a day is before the day. -/
theorem lt_startOfDay_iff {day : Date} {instant : Timestamp} :
    instant < ⟨day, Time.startOfDay⟩ ↔ instant.date < day := by
  have first := not_lt.mpr (Time.startOfDay_le instant.time)
  rw [lt_iff]
  simp [first]

/-- What is not before the first instant of a day is on the day or behind it. -/
theorem startOfDay_le_iff {day : Date} {instant : Timestamp} :
    ⟨day, Time.startOfDay⟩ ≤ instant ↔ day ≤ instant.date := by
  rw [← not_lt, lt_startOfDay_iff, not_lt]

/-- The last whole second of a day bounds all of the day but the fractions of that second. -/
theorem le_endOfDay_iff {day : Date} {instant : Timestamp} (regular : instant.time.second < 60) :
    instant ≤ ⟨day, Time.endOfDay⟩ ↔
      instant.date ≤ day ∧ ¬ (instant.date = day ∧ instant.time.InLastSecond) := by
  rw [← not_lt, lt_iff, not_or, not_lt, Time.endOfDay_lt_iff regular, eq_comm]

end Timestamp

end EntitySearch
