import EntitySearch.Proofs.Assembly
import EntitySearch.Proofs.Blankness
import Mathlib.Data.List.Forall2

/-!
# Composite operators

A range with one end asks what a comparison with that end asks, and a choice of values asks what
equality asks of one value after another.  How a value is bound depends on whether it bounds a range
from above, and that an operator decides for every position on its own.
-/

namespace EntitySearch

namespace Correction

/-- A value as it is corrected on a side of a range. -/
def applyTo (correction : Correction) (upper : Bool) (value : Value) : Value :=
  match correction with
  | none => value
  | dates => correctValue upper value

theorem apply_eq_mapIdx (correction : Correction) (operator : Operator) (values : List Value) :
    correction.apply operator values =
      values.mapIdx fun position => correction.applyTo (isUpperBound operator position) := by
  cases correction with
  | none => exact (List.ext_getElem (by simp) (by simp [applyTo, apply]))
  | dates => rfl

/-- No value of a choice bounds a range from above. -/
@[simp]
theorem isUpperBound_oneOf (position : Nat) : isUpperBound .oneOf position = false := rfl

@[simp]
theorem isNull_applyTo (correction : Correction) (upper : Bool) (value : Value) :
    (correction.applyTo upper value).isNull = value.isNull := by
  cases correction <;> simp [applyTo]

@[simp]
theorem isBlank_applyTo (correction : Correction) (upper : Bool) (value : Value) :
    (correction.applyTo upper value).isBlank = value.isBlank := by
  cases correction <;> simp [applyTo]

end Correction

namespace Condition

variable {column : String} {value blank : Value}

theorem firstValue_singleton (value : Value) : firstValue [value] = value := by
  cases value <;> rfl

theorem between?_lower (present : value.isBlank = false) :
    between? column [value] = some (compare column ">=" value) := by
  simp [between?, Option.filter_some, present]

theorem between?_lower_blank (present : value.isBlank = false) (absent : blank.isBlank = true) :
    between? column [value, blank] = some (compare column ">=" value) := by
  simp [between?, Option.filter_some, present, absent]

theorem between?_blank_upper (present : value.isBlank = false) (absent : blank.isBlank = true) :
    between? column [blank, value] = some (compare column "<=" value) := by
  simp [between?, Option.filter_some, present, absent]

theorem oneOf?_eq_alternatives {compared : String} {values : List Value} (present : values ≠ []) :
    oneOf? column compared values =
      some ⟨"(" ++ String.intercalate " or " (values.map fun value =>
          (isValue column compared value).sql) ++ ")",
        values.flatMap fun value => (isValue column compared value).params⟩ := by
  rw [oneOf?, if_neg (by simpa using present), Fragment.join_eq, Fragment.wrap_eq, List.map_map,
    List.flatMap_map]
  rfl

end Condition

namespace Filter

variable {type : FieldType} {column : String} {dialect : Dialect} {correction : Correction}

/-- The filter with another operator and other values. -/
def asking (filter : Filter) (operator : Operator) (values : List Value) : Filter :=
  { filter with operator, values }

/-- A value as the filter binds it on a side of a range. -/
def boundValue (filter : Filter) (type : FieldType) (correction : Correction) (upper : Bool)
    (value : Value) : Value :=
  let corrected := if type.isTemporal then correction.applyTo upper value else value
  if filter.ignoreCase then corrected.upper else corrected

@[simp]
theorem isNull_boundValue (filter : Filter) (upper : Bool) (value : Value) :
    (filter.boundValue type correction upper value).isNull = value.isNull := by
  rw [boundValue]
  split <;> split <;> simp

@[simp]
theorem isBlank_boundValue (filter : Filter) (upper : Bool) (value : Value) :
    (filter.boundValue type correction upper value).isBlank = value.isBlank := by
  rw [boundValue]
  split <;> split <;> simp

/-- Every value is bound by what its own position bounds. -/
theorem boundValues_asking (filter : Filter) (type : FieldType) (correction : Correction)
    (operator : Operator) (values : List Value) :
    (filter.asking operator values).boundValues type correction =
      values.mapIdx fun position =>
        filter.boundValue type correction (Correction.isUpperBound operator position) := by
  simp only [boundValues, asking, correction.apply_eq_mapIdx]
  split <;> split <;> apply List.ext_getElem <;> simp_all [boundValue]

theorem condition?_asking (filter : Filter) (type : FieldType) (column : String)
    (dialect : Dialect) (correction : Correction) (operator : Operator) (values : List Value) :
    (filter.asking operator values).condition? type column dialect correction =
      Condition.ofOperator? operator column (filter.comparedColumn column dialect)
        (values.mapIdx fun position =>
          filter.boundValue type correction (Correction.isUpperBound operator position)) := by
  rw [condition?, boundValues_asking]
  rfl

theorem mapIdx_boundValue_oneOf (filter : Filter) (values : List Value) :
    (values.mapIdx fun position =>
        filter.boundValue type correction (Correction.isUpperBound .oneOf position)) =
      values.map (filter.boundValue type correction false) :=
  List.ext_getElem (by simp) (by simp)

/-- What one value of a choice asks of a column: whether it is null, or what equality asks. -/
inductive IsAlternative (filter : Filter) (type : FieldType) (column : String) (dialect : Dialect)
    (correction : Correction) : Value → Fragment → Prop where
  | null : IsAlternative filter type column dialect correction .null ⟨column ++ " is null", []⟩
  | value {value : Value} {part : Fragment} (present : value ≠ .null)
      (equal : (filter.asking .equal [value]).condition? type column dialect correction =
        some part) :
      IsAlternative filter type column dialect correction value part

theorem isAlternative_isValue (filter : Filter) (value : Value) :
    filter.IsAlternative type column dialect correction value
      (Condition.isValue column (filter.comparedColumn column dialect)
        (filter.boundValue type correction false value)) := by
  rw [Condition.isValue, isNull_boundValue]
  split
  · rename_i null
    rw [Value.isNull_iff] at null
    rw [null]
    exact .null
  · rename_i present
    refine .value (fun null => present (null ▸ rfl)) ?_
    rw [condition?_asking]
    exact congrArg (fun value => some (Condition.compare _ "=" value))
      (Condition.firstValue_singleton _)

/-- Composite operators ask what the simple operators ask that they abbreviate. -/
theorem condition?_composes (filter : Filter) (type : FieldType) (column : String)
    (dialect : Dialect) (correction : Correction) :
    (∀ value blank : Value, value.isBlank = false → blank.isBlank = true →
      (filter.asking .between [value]).condition? type column dialect correction =
        (filter.asking .greaterEqual [value]).condition? type column dialect correction ∧
      (filter.asking .between [value, blank]).condition? type column dialect correction =
        (filter.asking .greaterEqual [value]).condition? type column dialect correction ∧
      (filter.asking .between [blank, value]).condition? type column dialect correction =
        (filter.asking .lessEqual [value]).condition? type column dialect correction) ∧
    ∀ values : List Value, values ≠ [] → ∃ parts,
      List.Forall₂ (filter.IsAlternative type column dialect correction) values parts ∧
      (filter.asking .oneOf values).condition? type column dialect correction =
        some ⟨"(" ++ String.intercalate " or " (parts.map (·.sql)) ++ ")",
          parts.flatMap (·.params)⟩ := by
  constructor
  · intro value blank present absent
    simp only [condition?_asking, Condition.ofOperator?, List.mapIdx_cons, List.mapIdx_nil,
      Condition.firstValue_singleton]
    refine ⟨?_, ?_, ?_⟩
    · exact Condition.between?_lower (by simpa using present)
    · exact Condition.between?_lower_blank (by simpa using present) (by simpa using absent)
    · exact Condition.between?_blank_upper (by simpa using present) (by simpa using absent)
  · intro values present
    refine ⟨values.map fun value => Condition.isValue column (filter.comparedColumn column dialect)
      (filter.boundValue type correction false value), ?_, ?_⟩
    · rw [List.forall₂_map_right_iff, List.forall₂_same]
      exact fun value _ => filter.isAlternative_isValue value
    · rw [condition?_asking, mapIdx_boundValue_oneOf, Condition.ofOperator?,
        Condition.oneOf?_eq_alternatives (by simpa using present)]
      simp [Function.comp_def, List.flatMap_map]

/-- Days that orders were placed on, in whatever case they are written. -/
def placedOn : Filter := { field := "placed", operator := .equal, ignoreCase := true }

/-- The day that a range ends with is taken in as a whole, like the day of a comparison, and the
days of a choice are bound as the day of an equality is. -/
theorem condition?_composes_days :
    (Value.text "2024-01-31").isBlank = false ∧ (Value.text " ").isBlank = true ∧
      (placedOn.asking .between [.text " ", .text "2024-01-31"]).condition? .dateTime "o.placed"
          .oracle .dates =
        (placedOn.asking .lessEqual [.text "2024-01-31"]).condition? .dateTime "o.placed"
          .oracle .dates ∧
      ∃ parts, List.Forall₂ (placedOn.IsAlternative .dateTime "o.placed" .oracle .dates)
          [.text "2024-01-31", .null, .text " "] parts ∧
        (placedOn.asking .oneOf [.text "2024-01-31", .null, .text " "]).condition? .dateTime
            "o.placed" .oracle .dates =
          some ⟨"(" ++ String.intercalate " or " (parts.map (·.sql)) ++ ")",
            parts.flatMap (·.params)⟩ := by
  have present : (Value.text "2024-01-31").isBlank = false := by decide
  have absent : (Value.text " ").isBlank = true := by decide
  obtain ⟨ranges, choices⟩ := condition?_composes placedOn .dateTime "o.placed" .oracle .dates
  exact ⟨present, absent, (ranges _ _ present absent).2.2, choices _ (by simp)⟩

end Filter

end EntitySearch
