import EntitySearch.Proofs.UpperCase
import EntitySearch.Proofs.WhereClause.Conditions

/-!
# Comparisons without case

When upper and lower case count as equal, a condition compares the folded column in all its
placeholders, and binds texts in upper case.  A pattern is made after its value has been put in
upper case, so around a value whose display is a word it is not in upper case.
-/

namespace EntitySearch

open WhereClause

namespace Condition

/-- Every placeholder stands behind the column in the form in which it is compared. -/
inductive Compares (column compared : String) : Fragment → Prop
  | predicate (asked : Predicate) (asks : asked.values ≠ []) :
      Compares column compared (.ofText compared ++ asked.fragment)
  | isNull : Compares column compared ⟨column ++ " is null", []⟩
  | alternatives {parts : List Fragment} (each : ∀ part ∈ parts, Compares column compared part) :
      Compares column compared
        ⟨"(" ++ String.intercalate " or " (parts.map (·.sql)) ++ ")", parts.flatMap (·.params)⟩

variable {column compared before after : String} {value : Value} {values : List Value}
  {fragment : Fragment}

theorem compares_compare (comparison : Comparison) (value : Value) :
    Compares column compared (compare compared comparison.sign value) := by
  rw [compare_eq_append]
  exact .predicate (.compared comparison value) (List.cons_ne_nil _ _)

theorem compares_like (before after : String) (value : Value) :
    Compares column compared (like compared before after value) :=
  .predicate (.like (pattern before after value)) (List.cons_ne_nil _ _)

theorem compares_between? (found : between? compared values = some fragment) :
    Compares column compared fragment := by
  rcases between?_cases found with ⟨lower, -, upper, -, rfl⟩ | ⟨lower, -, rfl⟩ | ⟨upper, -, rfl⟩
  · exact .predicate (.between lower upper) (List.cons_ne_nil _ _)
  · exact compares_compare .atLeast lower
  · exact compares_compare .atMost upper

theorem compares_isValue (value : Value) :
    Compares column compared (isValue column compared value) := by
  rw [isValue]
  split
  · exact .isNull
  · exact compares_compare .equal value

theorem compares_oneOf? (found : oneOf? column compared values = some fragment) :
    Compares column compared fragment := by
  rw [eq_of_oneOf? found, Fragment.join_eq, Fragment.wrap_eq]
  refine .alternatives fun part member => ?_
  obtain ⟨value, -, rfl⟩ := List.mem_map.mp member
  exact compares_isValue value

/-- Whatever is asked of a column but whether it is null is asked of its compared form. -/
theorem compares_ofOperator? {operator : Operator}
    (compares : operator ≠ .empty ∧ operator ≠ .notEmpty)
    (found : ofOperator? operator column compared values = some fragment) :
    Compares column compared fragment := by
  cases operator with
  | equal => exact Option.some.inj found ▸ compares_compare .equal _
  | notEqual => exact Option.some.inj found ▸ compares_compare .notEqual _
  | greaterThan => exact Option.some.inj found ▸ compares_compare .greater _
  | greaterEqual => exact Option.some.inj found ▸ compares_compare .atLeast _
  | lessThan => exact Option.some.inj found ▸ compares_compare .less _
  | lessEqual => exact Option.some.inj found ▸ compares_compare .atMost _
  | contains => exact Option.some.inj found ▸ compares_like "%" "%" _
  | startsWith => exact Option.some.inj found ▸ compares_like "" "%" _
  | endsWith => exact Option.some.inj found ▸ compares_like "%" "" _
  | between => exact compares_between? found
  | empty => exact absurd rfl compares.1
  | notEmpty => exact absurd rfl compares.2
  | oneOf => exact compares_oneOf? found

/-! ## Values in upper case -/

theorem upper_firstValue (folded : ∀ value ∈ values, value.upper = value) :
    (firstValue values).upper = firstValue values := by
  rw [firstValue]
  cases found : values.find? fun value => !value.isNull with
  | none => rfl
  | some value => exact folded value (List.mem_of_find?_eq_some found)

theorem mem_of_mem_bound? {position : Nat} (bound : value ∈ bound? values position) :
    value ∈ values := by
  obtain ⟨present, -⟩ := Option.filter_eq_some_iff.mp bound
  exact List.mem_of_getElem? present

theorem mem_of_between? (found : between? compared values = some fragment)
    (member : value ∈ fragment.params) : value ∈ values := by
  rcases between?_cases found with
    ⟨lower, from_lower, upper, to_upper, rfl⟩ | ⟨lower, from_lower, rfl⟩ | ⟨upper, to_upper, rfl⟩
  · rcases List.mem_pair.mp member with rfl | rfl
    · exact mem_of_mem_bound? from_lower
    · exact mem_of_mem_bound? to_upper
  · exact List.mem_singleton.mp member ▸ mem_of_mem_bound? from_lower
  · exact List.mem_singleton.mp member ▸ mem_of_mem_bound? to_upper

theorem mem_of_oneOf? (found : oneOf? column compared values = some fragment)
    (member : value ∈ fragment.params) : value ∈ values := by
  rw [eq_of_oneOf? found, Fragment.params_wrap, Fragment.params_join, List.flatMap_map] at member
  obtain ⟨asked, known, bound⟩ := List.mem_flatMap.mp member
  rw [isValue] at bound
  split at bound
  · cases bound
  · exact List.mem_singleton.mp bound ▸ known

/-- A pattern of a value in upper case is in upper case unless the value's display is a word. -/
theorem upper_pattern_iff (before_folded : Text.upper before = before)
    (after_folded : Text.upper after = after) (folded : value.upper = value) :
    (pattern before after value).upper = pattern before after value ↔ ¬value.IsWord := by
  by_cases absent : value = .null
  · rw [absent]
    exact iff_of_true rfl nofun
  · rw [pattern_of_ne_null absent, ← value.upper_display_iff absent folded, Value.upper,
      Value.text.injEq, Text.upper_append, Text.upper_append, before_folded, after_folded,
      String.append_left_inj, String.append_right_inj]

end Condition

/-- The operator binds a pattern. -/
def Operator.bindsPattern : Operator → Bool
  | contains | startsWith | endsWith => true
  | _ => false

theorem Condition.folded_ofOperator?_iff {operator : Operator} {column compared : String}
    {values : List Value} {fragment : Fragment} (folded : ∀ value ∈ values, value.upper = value)
    (found : ofOperator? operator column compared values = some fragment) :
    (∀ value ∈ fragment.params, value.upper = value) ↔
      ¬(operator.bindsPattern = true ∧ (firstValue values).IsWord) := by
  have first := upper_firstValue folded
  have percent : Text.upper "%" = "%" := by decide +kernel
  cases operator with
  | equal | notEqual | greaterThan | greaterEqual | lessThan | lessEqual =>
      cases found
      exact iff_of_true (List.forall_mem_singleton.mpr first) nofun
  | contains =>
      cases found
      simpa [like, Operator.bindsPattern] using upper_pattern_iff percent percent first
  | startsWith =>
      cases found
      simpa [like, Operator.bindsPattern] using upper_pattern_iff Text.upper_empty percent first
  | endsWith =>
      cases found
      simpa [like, Operator.bindsPattern] using upper_pattern_iff percent Text.upper_empty first
  | between =>
      exact iff_of_true (fun value bound => folded value (mem_of_between? found bound)) nofun
  | empty | notEmpty =>
      cases found
      exact iff_of_true (List.forall_mem_nil _) nofun
  | oneOf => exact iff_of_true (fun value bound => folded value (mem_of_oneOf? found bound)) nofun

namespace Filter

theorem upper_of_mem_boundValues {filter : Filter} (folds : filter.ignoreCase = true)
    {type : FieldType} {correction : Correction} {value : Value}
    (bound : value ∈ filter.boundValues type correction) : value.upper = value := by
  rw [boundValues, folds, if_pos rfl] at bound
  obtain ⟨corrected, -, rfl⟩ := List.mem_map.mp bound
  exact Value.upper_upper corrected

/-- Without case, a condition compares the folded column in all its placeholders, and the texts that
it binds are in upper case unless it makes a pattern of a word. -/
theorem condition?_folds (filter : Filter) (type : FieldType) (column : String)
    (dialect : Dialect) (correction : Correction) {fragment : Fragment}
    (folds : filter.ignoreCase = true)
    (compares : filter.operator ≠ .empty ∧ filter.operator ≠ .notEmpty)
    (restricted : filter.condition? type column dialect correction = some fragment) :
    Condition.Compares column (dialect.foldCase column) fragment ∧
      ((∀ text, Value.text text ∈ fragment.params → Text.upper text = text) ↔
        ¬(filter.operator.bindsPattern = true ∧
          (Condition.firstValue (filter.boundValues type correction)).IsWord)) := by
  have folded_column : filter.comparedColumn column dialect = dialect.foldCase column := by
    rw [comparedColumn, if_pos folds]
  constructor
  · rw [← folded_column]
    exact Condition.compares_ofOperator? compares restricted
  · rw [← Condition.folded_ofOperator?_iff (fun _ => upper_of_mem_boundValues folds) restricted]
    constructor
    · intro texts value bound
      exact Value.upper_eq_self_iff.mpr fun text is_text => texts text (is_text ▸ bound)
    · intro values text bound
      exact Value.upper_eq_self_iff.mp (values _ bound) text rfl

/-- The pattern of a text is in upper case, around an expansion as well. -/
theorem condition?_folds_street :
    let filter : Filter := ⟨"street", .startsWith, [.null, .text "straße"], true⟩
    filter.ignoreCase = true ∧ (filter.operator ≠ .empty ∧ filter.operator ≠ .notEmpty) ∧
      ∃ fragment, filter.condition? .text "t.street" .mysql .dates = some fragment ∧
        fragment = ⟨"upper(t.street) like ?", [.text "STRASSE%"]⟩ ∧
        Condition.Compares "t.street" "upper(t.street)" fragment ∧
        ∀ text, Value.text text ∈ fragment.params → Text.upper text = text := by
  intro filter
  have restricted : filter.condition? .text "t.street" .mysql .dates =
      some ⟨"upper(t.street) like ?", [.text "STRASSE%"]⟩ := by
    decide +kernel
  have first : Condition.firstValue (filter.boundValues .text .dates) = .text "STRASSE" := by
    decide +kernel
  obtain ⟨compares, folded_iff⟩ :=
    condition?_folds filter .text "t.street" .mysql .dates rfl (by decide) restricted
  refine ⟨rfl, by decide, _, restricted, rfl, compares, folded_iff.mpr ?_⟩
  rw [first]
  exact fun word => nomatch word.2

/-- Around the display of a truth value, a pattern is not in upper case. -/
theorem not_forall_folded :
    ¬∀ (filter : Filter) (type : FieldType) (column : String) (dialect : Dialect)
      (correction : Correction) (fragment : Fragment), filter.ignoreCase = true →
        filter.operator ≠ .empty ∧ filter.operator ≠ .notEmpty →
        filter.condition? type column dialect correction = some fragment →
        Condition.Compares column (dialect.foldCase column) fragment ∧
          ∀ text, Value.text text ∈ fragment.params → Text.upper text = text := by
  intro folds
  have restricted : condition? ⟨"flag", .contains, [.boolean true], true⟩ .boolean "t.flag" .mysql
      .dates = some ⟨"upper(t.flag) like ?", [.text "%true%"]⟩ := by
    decide +kernel
  have folded : Text.upper "%true%" = "%true%" :=
    (folds _ _ _ _ _ _ rfl (by decide) restricted).2 "%true%" (List.mem_singleton.mpr rfl)
  exact absurd folded (by decide +kernel)

end Filter

end EntitySearch
