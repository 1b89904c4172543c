import EntitySearch.Condition
import EntitySearch.Proofs.Calendar.Reading

/-!
# Day bounds

A filter of a temporal field whose values are days binds instants.  Lower bounds and the bounds of
strict comparisons are first seconds, so they cut between two days.  Upper bounds are last seconds,
so they take in all of their day but the fractions of its last second.
-/

namespace EntitySearch

/-- The instant that a day bounds a range with. -/
def Date.bound (upper : Bool) (day : Date) : Timestamp := (DateReading.day day).bound upper

theorem Correction.correctValue_day (upper : Bool) (day : Date) :
    correctValue upper (.text (String.ofList day.text)) = .timestamp (day.bound upper) := by
  rw [correctValue, DateReading.ofText?_text]
  rfl

/-- The instants that days stand for as the values of an operator. -/
def Operator.dayBounds (operator : Operator) (days : List Date) : List Value :=
  days.mapIdx fun position day =>
    .timestamp (day.bound (Correction.isUpperBound operator position))

theorem Operator.map_upper_dayBounds (operator : Operator) (days : List Date) :
    (operator.dayBounds days).map Value.upper = operator.dayBounds days := by
  apply List.ext_getElem <;> simp [dayBounds, Value.upper]

namespace Filter

/-- The filter with an operator and the texts of days as its values. -/
def onDays (filter : Filter) (operator : Operator) (days : List Date) : Filter :=
  { filter with operator, values := days.map fun day => .text (String.ofList day.text) }

theorem apply_onDays (filter : Filter) (operator : Operator) (days : List Date) :
    Correction.dates.apply operator (filter.onDays operator days).values =
      operator.dayBounds days := by
  apply List.ext_getElem <;>
    simp [onDays, Correction.apply, Operator.dayBounds, Correction.correctValue_day]

/-- Days are bound as instants, whether or not case counts. -/
theorem boundValues_onDays (filter : Filter) (operator : Operator) (days : List Date)
    {type : FieldType} (temporal : type.isTemporal = true) :
    (filter.onDays operator days).boundValues type .dates = operator.dayBounds days := by
  have corrected := apply_onDays filter operator days
  have folded := operator.map_upper_dayBounds days
  rw [← corrected] at folded ⊢
  rw [boundValues, if_pos temporal]
  split
  · exact folded
  · rfl

theorem condition?_onDays (filter : Filter) (operator : Operator) (days : List Date)
    {type : FieldType} (temporal : type.isTemporal = true) (column : String) (dialect : Dialect) :
    (filter.onDays operator days).condition? type column dialect .dates =
      Condition.ofOperator? operator column (filter.comparedColumn column dialect)
        (operator.dayBounds days) := by
  rw [condition?, boundValues_onDays filter operator days temporal]
  rfl

/-- One day behind a sign is bound as one instant. -/
theorem condition?_onDay (filter : Filter) {operator : Operator} (sign : String)
    (compares : ∀ column compared values, Condition.ofOperator? operator column compared values =
      some (Condition.compare compared sign (Condition.firstValue values)))
    (day : Date) {type : FieldType} (temporal : type.isTemporal = true) (column : String)
    (dialect : Dialect) :
    (filter.onDays operator [day]).condition? type column dialect .dates =
      some ⟨filter.comparedColumn column dialect ++ (" " ++ sign ++ " ?"),
        [.timestamp (day.bound (Correction.isUpperBound operator 0))]⟩ := by
  rw [condition?_onDays filter operator [day] temporal column dialect, compares, Condition.compare,
    String.append_assoc, String.append_assoc]
  rfl

/-- The conditions on a column that days make, by the operator, bind instants that compare with an
instant as the days compare with its date.  A day that bounds from above leaves out the fractions of
its last second. -/
structure BoundsDays (filter : Filter) (type : FieldType) (column : String) (dialect : Dialect)
    (first last : Date) : Prop where
  /-- Exactly the instants on the day or behind it are not before the bound. -/
  greaterEqual : ∃ bound : Timestamp,
    (filter.onDays .greaterEqual [first]).condition? type column dialect .dates =
        some ⟨filter.comparedColumn column dialect ++ " >= ?", [.timestamp bound]⟩ ∧
      ∀ instant : Timestamp, bound ≤ instant ↔ first ≤ instant.date
  /-- Exactly the instants before the day are before the bound. -/
  lessThan : ∃ bound : Timestamp,
    (filter.onDays .lessThan [first]).condition? type column dialect .dates =
        some ⟨filter.comparedColumn column dialect ++ " < ?", [.timestamp bound]⟩ ∧
      ∀ instant : Timestamp, instant < bound ↔ instant.date < first
  /-- The instants up to the bound are those up to the start of the day's last second. -/
  lessEqual : ∃ bound : Timestamp,
    (filter.onDays .lessEqual [last]).condition? type column dialect .dates =
        some ⟨filter.comparedColumn column dialect ++ " <= ?", [.timestamp bound]⟩ ∧
      ∀ instant : Timestamp, instant.time.second < 60 → (instant ≤ bound ↔
        instant.date ≤ last ∧ ¬ (instant.date = last ∧ instant.time.InLastSecond))
  /-- The instants between the bounds are those from the first day up to the start of the last
  second of the last day. -/
  between : ∃ lower upper : Timestamp,
    (filter.onDays .between [first, last]).condition? type column dialect .dates =
        some ⟨filter.comparedColumn column dialect ++ " between ? and ?",
          [.timestamp lower, .timestamp upper]⟩ ∧
      ∀ instant : Timestamp, instant.time.second < 60 → (lower ≤ instant ∧ instant ≤ upper ↔
        first ≤ instant.date ∧ instant.date ≤ last ∧
          ¬ (instant.date = last ∧ instant.time.InLastSecond))

/-- The bounds that days are corrected to cover whole days, up to fractions of a last second. -/
theorem condition?_boundsDays (filter : Filter) {type : FieldType}
    (temporal : type.isTemporal = true) (column : String) (dialect : Dialect) (first last : Date) :
    filter.BoundsDays type column dialect first last where
  greaterEqual :=
    ⟨first.bound false,
      condition?_onDay filter ">=" (fun _ _ _ => rfl) first temporal column dialect,
      fun _ => Timestamp.startOfDay_le_iff⟩
  lessThan :=
    ⟨first.bound false,
      condition?_onDay filter "<" (fun _ _ _ => rfl) first temporal column dialect,
      fun _ => Timestamp.lt_startOfDay_iff⟩
  lessEqual :=
    ⟨last.bound true,
      condition?_onDay filter "<=" (fun _ _ _ => rfl) last temporal column dialect,
      fun _ regular => Timestamp.le_endOfDay_iff regular⟩
  between :=
    ⟨first.bound false, last.bound true,
      condition?_onDays filter .between [first, last] temporal column dialect,
      fun _ regular =>
        and_congr Timestamp.startOfDay_le_iff (Timestamp.le_endOfDay_iff regular)⟩

/-- The last day of a January. -/
def lastOfJanuary : Date := ⟨2024, 1, 31, by decide⟩

/-- Half a second before that January ends. -/
def endOfJanuary : Timestamp := ⟨lastOfJanuary, ⟨23, 59, 59, 500000000, by decide⟩⟩

theorem condition?_boundsDays_january :
    FieldType.dateTime.isTemporal = true ∧
      ({ field := "placed", operator := .between } : Filter).BoundsDays .dateTime "o.placed"
        .postgresql ⟨2024, 1, 1, by decide⟩ lastOfJanuary :=
  ⟨rfl, condition?_boundsDays _ rfl "o.placed" .postgresql _ lastOfJanuary⟩

/-- The last half of a second is on the day, but behind the instant that the day is bound as. -/
theorem condition?_omits_endOfJanuary :
    ({ field := "placed", operator := .lessEqual, values := [.text "2024-01-31"] } :
        Filter).condition? .dateTime "o.placed" .postgresql .dates =
      some ⟨"o.placed <= ?", [.timestamp (lastOfJanuary.bound true)]⟩ ∧
    endOfJanuary.time.second < 60 ∧
    ¬ (endOfJanuary ≤ lastOfJanuary.bound true ↔ endOfJanuary.date ≤ lastOfJanuary) := by
  refine ⟨by decide +kernel, by decide, fun covered => ?_⟩
  have late : lastOfJanuary.bound true < endOfJanuary := by decide
  exact absurd (covered.mpr le_rfl) (not_le.mpr late)

end Filter

end EntitySearch
