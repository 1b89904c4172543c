import EntitySearch.Proofs.ValueIndependence
import EntitySearch.Proofs.WhereClause.SelfContained

/-!
# Conditions are read as they are meant

The condition of a filter is read as one formula, which holds of a row exactly when the filter's
operator does of the row's column.
-/

namespace EntitySearch

open WhereClause

/-! ## What filters mean -/

namespace Operator

def firstPresent? (values : List Value) : Option Value := values.find? fun value => !value.isNull

/-- What the operator asks of a column's value, and of that value as it is compared. -/
def Holds (engine : Engine) (plain compared : Value) (values : List Value) : Operator → Prop
  | equal => ∃ value ∈ firstPresent? values, engine.Compares .equal compared value
  | notEqual => ∃ value ∈ firstPresent? values, engine.Compares .notEqual compared value
  | greaterThan => ∃ value ∈ firstPresent? values, engine.Compares .greater compared value
  | greaterEqual => ∃ value ∈ firstPresent? values, engine.Compares .atLeast compared value
  | lessThan => ∃ value ∈ firstPresent? values, engine.Compares .less compared value
  | lessEqual => ∃ value ∈ firstPresent? values, engine.Compares .atMost compared value
  | contains =>
      ∃ value ∈ firstPresent? values, engine.IsLike compared (.text ("%" ++ value.display ++ "%"))
  | startsWith =>
      ∃ value ∈ firstPresent? values, engine.IsLike compared (.text (value.display ++ "%"))
  | endsWith =>
      ∃ value ∈ firstPresent? values, engine.IsLike compared (.text ("%" ++ value.display))
  | between =>
      (∀ lower ∈ values[0]?, lower.isBlank = false → engine.Compares .atLeast compared lower) ∧
        ∀ upper ∈ values[1]?, upper.isBlank = false → engine.Compares .atMost compared upper
  | empty => compared = .null
  | notEmpty => compared ≠ .null
  | oneOf =>
      ∃ value ∈ values, (value = .null ∧ plain = .null) ∨ engine.Compares .equal compared value

/-- The operator uses the first value that is not null. -/
def usesFirst : Operator → Bool
  | between | empty | notEmpty | oneOf => false
  | _ => true

end Operator

namespace Filter

/-- The filter has a condition. -/
def restricts (filter : Filter) : Bool :=
  match filter.operator with
  | .between => (filter.values.take 2).any fun value => !value.isBlank
  | .oneOf => !filter.values.isEmpty
  | _ => true

/-- What the filter asks of a row in which it restricts a column.  Values for a temporal column are
corrected; when case does not count, they are then put in upper case and the column is folded. -/
def Holds (filter : Filter) (engine : Engine) (type : FieldType) (correction : Correction)
    (column : String) (row : Row) : Prop :=
  let value := row column
  let corrected :=
    if type.isTemporal then correction.apply filter.operator filter.values else filter.values
  if filter.ignoreCase then
    filter.operator.Holds engine value (engine.fold value) (corrected.map Value.upper)
  else filter.operator.Holds engine value value corrected

end Filter

theorem Condition.pattern_of_ne_null {value : Value} (present : value ≠ .null)
    (before after : String) :
    pattern before after value = .text (before ++ value.display ++ after) := by
  cases value with
  | null => contradiction
  | _ => rfl

namespace WhereClause

/-! ## Predicates -/

namespace Operand

/-- The column as it is written. -/
def tokens : Operand → List Token
  | .plain column => [.name column]
  | .folded column => [.name "upper", .opening, .name column, .closing]

def items : Operand → List Item
  | .plain column => [.token (.name column)]
  | .folded column => [.token (.name "upper"), .group [.name column] (.other [.name column])]

end Operand

namespace Predicate

/-- What is asked of the column, as it is written behind it. -/
def tokens : Predicate → List Token
  | compared comparison value => [.comparison comparison, .value value]
  | like pattern => [.keyword .like, .value pattern]
  | between lower upper => [.keyword .between, .value lower, .keyword .and, .value upper]
  | null => [.keyword .is, .keyword .null]
  | notNull => [.keyword .is, .keyword .not, .keyword .null]

def text : Predicate → String
  | compared comparison _ => comparison.sign ++ " ?"
  | like _ => "like ?"
  | between _ _ => "between ? and ?"
  | null => "is null"
  | notNull => "is not null"

def values : Predicate → List Value
  | compared _ value => [value]
  | like pattern => [pattern]
  | between lower upper => [lower, upper]
  | null | notNull => []

/-- The predicate as it stands behind a column. -/
def fragment (asked : Predicate) : Fragment := ⟨" " ++ asked.text, asked.values⟩

/-- The lexemes of a predicate, with placeholders for its values. -/
def lexemes : Predicate → List Lexeme
  | compared comparison _ => [.token (.comparison comparison), .placeholder]
  | like _ => [.token (.keyword .like), .placeholder]
  | between _ _ =>
      [.token (.keyword .between), .placeholder, .token (.keyword .and), .placeholder]
  | null => [.token (.keyword .is), .token (.keyword .null)]
  | notNull => [.token (.keyword .is), .token (.keyword .not), .token (.keyword .null)]

/-- The words may stand behind a space, and are cut as they are meant. -/
structure Words (text : String) (lexemes : List Lexeme) : Prop where
  quotationsEnd : QuotationsEnd (" " ++ text).toList
  lexemes_eq : WhereClause.lexemes (" " ++ text).toList = lexemes
  trimmed : Trimmed text.toList

theorem words_compared (comparison : Comparison) :
    Words (comparison.sign ++ " ?") [.token (.comparison comparison), .placeholder] := by
  cases comparison <;> exact ⟨by decide +kernel, by decide +kernel, by decide +kernel⟩

theorem words_like : Words "like ?" [.token (.keyword .like), .placeholder] :=
  ⟨by decide +kernel, by decide +kernel, by decide +kernel⟩

theorem words_between : Words "between ? and ?"
    [.token (.keyword .between), .placeholder, .token (.keyword .and), .placeholder] :=
  ⟨by decide +kernel, by decide +kernel, by decide +kernel⟩

theorem words_text (asked : Predicate) : Words asked.text asked.lexemes := by
  cases asked with
  | compared comparison value => exact words_compared comparison
  | like pattern => exact words_like
  | between lower upper => exact words_between
  | null => exact ⟨by decide +kernel, by decide +kernel, by decide +kernel⟩
  | notNull => exact ⟨by decide +kernel, by decide +kernel, by decide +kernel⟩

theorem assign_lexemes (asked : Predicate) :
    assign asked.lexemes asked.values = some asked.tokens := by
  cases asked <;> rfl

theorem tokens?_fragment (asked : Predicate) : tokens? asked.fragment = some asked.tokens := by
  have assigned := asked.assign_lexemes
  rw [← asked.words_text.lexemes_eq] at assigned
  exact tokens?_eq_some_iff.mpr ⟨asked.words_text.quotationsEnd, assigned⟩

end Predicate

/-- A predicate is read as it is written. -/
theorem isConjunct_predicate (operand : Operand) (asked : Predicate) :
    IsConjunct (operand.tokens ++ asked.tokens) (.predicate operand asked) := by
  refine ⟨operand.items ++ asked.tokens.map Item.token, ?_, ?_, ?_⟩
  · cases operand <;> cases asked <;> rfl
  · cases operand <;> cases asked <;> rfl
  · rintro ⟨content, alternative?, conjuncts, phrase⟩ levels ⟨⟩
    cases operand <;> cases asked <;> exact ⟨_, rfl⟩

/-- Wherever a condition may stand, the fragment stands for the formula. -/
def States (fragment : Fragment) (formula : Formula) : Prop :=
  ∃ tokens, Reads fragment tokens ∧ IsConjunct tokens formula

theorem states_predicate {column : String} {operand : Operand}
    (reads : Reads (.ofText column) operand.tokens) (asked : Predicate) :
    States (.ofText column ++ asked.fragment) (.predicate operand asked) :=
  ⟨_, reads.append_spaced rfl asked.tokens?_fragment asked.words_text.trimmed,
    isConjunct_predicate operand asked⟩

theorem exists_tokens {fragments : List Fragment} {formulas : List Formula}
    (each : List.Forall₂ States fragments formulas) :
    ∃ tokens, List.Forall₂ Reads fragments tokens ∧ List.Forall₂ IsConjunct tokens formulas := by
  induction each with
  | nil => exact ⟨[], .nil, .nil⟩
  | cons first others induction =>
      obtain ⟨tokens, reads, conjunct⟩ := first
      obtain ⟨rest, rest_reads, rest_conjuncts⟩ := induction
      exact ⟨tokens :: rest, .cons reads rest_reads, .cons conjunct rest_conjuncts⟩

/-- Between parentheses, alternatives are a single condition. -/
theorem states_alternatives {fragments : List Fragment} {formulas : List Formula}
    (each : List.Forall₂ States fragments formulas) (present : fragments ≠ []) :
    States ((Fragment.join " or " fragments).wrap "(" ")") (.any formulas) := by
  obtain ⟨tokens, reads, conjuncts⟩ := exists_tokens each
  have tokens_present : tokens ≠ [] := by
    rintro rfl
    cases reads
    contradiction
  have joined : Reads (Fragment.join " or " fragments) ([.keyword .or].intercalate tokens) :=
    Reads.join present reads .or
  obtain ⟨level, success, formula⟩ := run_alternatives conjuncts tokens_present {} [] rfl rfl
  exact ⟨_, .parenthesized joined.tokens, isConjunct_group success formula⟩

section

variable {column : String} {operand : Operand}

theorem compare_eq_append (column : String) (comparison : Comparison) (value : Value) :
    Condition.compare column comparison.sign value =
      .ofText column ++ (Predicate.compared comparison value).fragment := by
  ext
  · simp [Condition.compare, Predicate.fragment, Predicate.text, String.append_assoc]
  · simp [Condition.compare, Predicate.fragment, Predicate.values]

theorem states_compare (reads : Reads (.ofText column) operand.tokens) (comparison : Comparison)
    (value : Value) :
    States (Condition.compare column comparison.sign value)
      (.predicate operand (.compared comparison value)) := by
  rw [compare_eq_append]
  exact states_predicate reads _

theorem states_like (reads : Reads (.ofText column) operand.tokens) (before after : String)
    (value : Value) :
    States (Condition.like column before after value)
      (.predicate operand (.like (Condition.pattern before after value))) :=
  states_predicate reads (.like (Condition.pattern before after value))

theorem states_isNull (reads : Reads (.ofText column) operand.tokens) :
    States (Condition.isNull column) (.predicate operand .null) :=
  states_predicate reads .null

theorem states_isNotNull (reads : Reads (.ofText column) operand.tokens) :
    States (Condition.isNotNull column) (.predicate operand .notNull) :=
  states_predicate reads .notNull

theorem states_between (reads : Reads (.ofText column) operand.tokens) (lower upper : Value) :
    States ⟨column ++ " between ? and ?", [lower, upper]⟩
      (.predicate operand (.between lower upper)) :=
  states_predicate reads (.between lower upper)

end

/-! ## Operators -/

/-- The formula holds where the operator does, and is unknown where that has no value to use. -/
structure Expresses (formula : Formula) (operator : Operator) (column : String)
    (operand : Operand) (values : List Value) : Prop where
  holds_iff : ∀ engine row, formula.truth engine row = .holds ↔
    operator.Holds engine (row column) (operand.value engine row) values
  unknown : operator.usesFirst = true → Operator.firstPresent? values = none →
    ∀ engine row, formula.truth engine row = .unknown

variable {column : String} {operand : Operand} {values : List Value}

theorem expresses_of_holds_iff {formula : Formula} {operator : Operator}
    (unused : operator.usesFirst = false)
    (holds_iff : ∀ engine row, formula.truth engine row = .holds ↔
      operator.Holds engine (row column) (operand.value engine row) values) :
    Expresses formula operator column operand values := by
  refine ⟨holds_iff, ?_⟩
  intro used
  rw [unused] at used
  cases used

/-- A predicate of the first value that is not null says what the operator asks of that value. -/
theorem expresses_first {operator : Operator} (asked : Value → Predicate)
    (test : Engine → Value → Value → Prop)
    (of_null : ∀ engine compared, (asked .null).truth engine compared = .unknown)
    (of_value : ∀ engine compared value, value ≠ .null →
      ((asked value).truth engine compared = .holds ↔ test engine compared value))
    (asks : ∀ engine plain compared values, operator.Holds engine plain compared values ↔
      ∃ value ∈ Operator.firstPresent? values, test engine compared value) :
    Expresses (.predicate operand (asked (Condition.firstValue values))) operator column operand
      values where
  holds_iff := by
    intro engine row
    rw [asks, Condition.firstValue, ← Operator.firstPresent?, Formula.truth]
    cases found : Operator.firstPresent? values with
    | none => simp [of_null]
    | some value =>
        have present : value ≠ .null := by simpa [← Value.isNull_iff] using List.find?_some found
        simpa using of_value engine _ value present
  unknown := by
    intro _ absent engine row
    rw [Condition.firstValue, ← Operator.firstPresent?, absent]
    exact of_null engine _

theorem expresses_compared {operator : Operator} (comparison : Comparison)
    (asks : ∀ engine plain compared values, operator.Holds engine plain compared values ↔
      ∃ value ∈ Operator.firstPresent? values, engine.Compares comparison compared value) :
    Expresses (.predicate operand (.compared comparison (Condition.firstValue values))) operator
      column operand values :=
  expresses_first (.compared comparison) (fun engine => engine.Compares comparison)
    (fun _ _ => Truth.ofPresent_null _ _) (fun engine _ _ _ => engine.compare_eq_holds_iff) asks

theorem expresses_like {operator : Operator} (before after : String)
    (asks : ∀ engine plain compared values, operator.Holds engine plain compared values ↔
      ∃ value ∈ Operator.firstPresent? values,
        engine.IsLike compared (.text (before ++ value.display ++ after))) :
    Expresses
      (.predicate operand (.like (Condition.pattern before after (Condition.firstValue values))))
      operator column operand values := by
  refine expresses_first (fun value => .like (Condition.pattern before after value))
    (fun engine compared value => engine.IsLike compared (.text (before ++ value.display ++ after)))
    (fun _ _ => Truth.ofPresent_null _ _) ?_ asks
  intro engine compared value present
  rw [Condition.pattern_of_ne_null present]
  exact engine.like_eq_holds_iff

theorem forall_bound?_iff {position : Nat} {test : Value → Prop} :
    (∀ bound ∈ values[position]?, bound.isBlank = false → test bound) ↔
      ∀ bound ∈ Condition.bound? values position, test bound := by
  simp [Condition.bound?, Option.filter_eq_some_iff]

theorem between?_eq (column : String) (values : List Value) :
    Condition.between? column values =
      match Condition.bound? values 0, Condition.bound? values 1 with
      | some lower, some upper => some ⟨column ++ " between ? and ?", [lower, upper]⟩
      | some lower, none => some (Condition.compare column ">=" lower)
      | none, some upper => some (Condition.compare column "<=" upper)
      | none, none => none :=
  rfl

theorem between?_cases {column : String} {values : List Value} {fragment : Fragment}
    (found : Condition.between? column values = some fragment) :
    (∃ lower ∈ Condition.bound? values 0, ∃ upper ∈ Condition.bound? values 1,
        fragment = ⟨column ++ " between ? and ?", [lower, upper]⟩) ∨
      (∃ lower ∈ Condition.bound? values 0, fragment = Condition.compare column ">=" lower) ∨
        ∃ upper ∈ Condition.bound? values 1, fragment = Condition.compare column "<=" upper := by
  rw [between?_eq] at found
  split at found
  · rename_i lower upper from_lower to_upper
    exact Or.inl ⟨lower, from_lower, upper, to_upper, (Option.some.inj found).symm⟩
  · rename_i lower from_lower _
    exact Or.inr (Or.inl ⟨lower, from_lower, (Option.some.inj found).symm⟩)
  · rename_i upper _ to_upper
    exact Or.inr (Or.inr ⟨upper, to_upper, (Option.some.inj found).symm⟩)
  · cases found

theorem eq_of_oneOf? {column compared : String} {values : List Value} {fragment : Fragment}
    (found : Condition.oneOf? column compared values = some fragment) :
    fragment =
      (Fragment.join " or " (values.map (Condition.isValue column compared))).wrap "(" ")" := by
  rw [Condition.oneOf?] at found
  split at found
  · cases found
  · exact (Option.some.inj found).symm

theorem holds_between_iff {engine : Engine} {plain compared : Value} :
    Operator.between.Holds engine plain compared values ↔
      (∀ lower ∈ Condition.bound? values 0, engine.Compares .atLeast compared lower) ∧
        ∀ upper ∈ Condition.bound? values 1, engine.Compares .atMost compared upper := by
  rw [Operator.Holds, forall_bound?_iff, forall_bound?_iff]

theorem exists_formula_between {compared : String} {fragment : Fragment}
    (reads : Reads (.ofText compared) operand.tokens)
    (found : Condition.between? compared values = some fragment) :
    ∃ formula, States fragment formula ∧
      Expresses formula .between column operand values := by
  rw [between?_eq] at found
  cases lower : Condition.bound? values 0 with
  | none =>
      cases upper : Condition.bound? values 1 with
      | none =>
          rw [lower, upper] at found
          cases found
      | some last =>
          rw [lower, upper] at found
          cases found
          refine ⟨_, states_compare reads .atMost last, expresses_of_holds_iff rfl ?_⟩
          intro engine row
          rw [holds_between_iff, lower, upper]
          simpa [Formula.truth, Predicate.truth] using engine.compare_eq_holds_iff
  | some first =>
      cases upper : Condition.bound? values 1 with
      | none =>
          rw [lower, upper] at found
          cases found
          refine ⟨_, states_compare reads .atLeast first, expresses_of_holds_iff rfl ?_⟩
          intro engine row
          rw [holds_between_iff, lower, upper]
          simpa [Formula.truth, Predicate.truth] using engine.compare_eq_holds_iff
      | some last =>
          rw [lower, upper] at found
          cases found
          refine ⟨_, states_between reads first last, expresses_of_holds_iff rfl ?_⟩
          intro engine row
          rw [holds_between_iff, lower, upper, Formula.truth, Predicate.truth,
            Truth.and_eq_holds_iff, engine.compare_eq_holds_iff, engine.compare_eq_holds_iff]
          simp

/-- The formula of one value of an alternation. -/
def Formula.ofValue (column : String) (operand : Operand) (value : Value) : Formula :=
  if value.isNull then .predicate (.plain column) .null
  else .predicate operand (.compared .equal value)

theorem states_isValue {compared : String}
    (column_reads : Reads (.ofText column) (Operand.plain column).tokens)
    (reads : Reads (.ofText compared) operand.tokens) (value : Value) :
    States (Condition.isValue column compared value) (.ofValue column operand value) := by
  rw [Condition.isValue, Formula.ofValue]
  split
  · exact states_isNull column_reads
  · exact states_compare reads .equal value

theorem truth_ofValue_iff {engine : Engine} {row : Row} {value : Value} :
    (Formula.ofValue column operand value).truth engine row = .holds ↔
      (value = .null ∧ row column = .null) ∨
        engine.Compares .equal (operand.value engine row) value := by
  rw [Formula.ofValue]
  split
  · rename_i absent
    rw [Value.isNull_iff] at absent
    simp [Formula.truth, Predicate.truth, Operand.value, absent, Engine.Compares]
  · rename_i present
    rw [Value.isNull_iff] at present
    simpa [Formula.truth, Predicate.truth, present] using engine.compare_eq_holds_iff

theorem exists_formula_oneOf {compared : String} {fragment : Fragment}
    (column_reads : Reads (.ofText column) (Operand.plain column).tokens)
    (reads : Reads (.ofText compared) operand.tokens)
    (found : Condition.oneOf? column compared values = some fragment) :
    ∃ formula, States fragment formula ∧
      Expresses formula .oneOf column operand values := by
  rw [Condition.oneOf?] at found
  split at found
  · cases found
  · rename_i present
    cases found
    have each : List.Forall₂ States (values.map (Condition.isValue column compared))
        (values.map (Formula.ofValue column operand)) := by
      rw [List.forall₂_map_left_iff, List.forall₂_map_right_iff, List.forall₂_same]
      exact fun value _ => states_isValue column_reads reads value
    have values_present : values ≠ [] := by simpa using present
    refine ⟨_, states_alternatives each (by simpa using values_present),
      expresses_of_holds_iff rfl ?_⟩
    intro engine row
    rw [Formula.truth_any_iff (by simpa using values_present)]
    simp [truth_ofValue_iff, Operator.Holds]

/-- The condition of an operator is read as what the operator asks. -/
theorem exists_formula {operator : Operator} {compared : String} {fragment : Fragment}
    (column_reads : Reads (.ofText column) (Operand.plain column).tokens)
    (reads : Reads (.ofText compared) operand.tokens)
    (found : Condition.ofOperator? operator column compared values = some fragment) :
    ∃ formula, States fragment formula ∧
      Expresses formula operator column operand values := by
  cases operator with
  | equal =>
      cases found
      exact ⟨_, states_compare reads .equal _, expresses_compared .equal fun _ _ _ _ => .rfl⟩
  | notEqual =>
      cases found
      exact ⟨_, states_compare reads .notEqual _, expresses_compared .notEqual fun _ _ _ _ => .rfl⟩
  | greaterThan =>
      cases found
      exact ⟨_, states_compare reads .greater _, expresses_compared .greater fun _ _ _ _ => .rfl⟩
  | greaterEqual =>
      cases found
      exact ⟨_, states_compare reads .atLeast _, expresses_compared .atLeast fun _ _ _ _ => .rfl⟩
  | lessThan =>
      cases found
      exact ⟨_, states_compare reads .less _, expresses_compared .less fun _ _ _ _ => .rfl⟩
  | lessEqual =>
      cases found
      exact ⟨_, states_compare reads .atMost _, expresses_compared .atMost fun _ _ _ _ => .rfl⟩
  | contains =>
      cases found
      exact ⟨_, states_like reads "%" "%" _, expresses_like "%" "%" fun _ _ _ _ => .rfl⟩
  | startsWith =>
      cases found
      refine ⟨_, states_like reads "" "%" _, expresses_like "" "%" fun _ _ _ _ => ?_⟩
      simp [Operator.Holds]
  | endsWith =>
      cases found
      refine ⟨_, states_like reads "%" "" _, expresses_like "%" "" fun _ _ _ _ => ?_⟩
      simp [Operator.Holds]
  | between => exact exists_formula_between reads found
  | empty =>
      cases found
      refine ⟨_, states_isNull reads, expresses_of_holds_iff rfl ?_⟩
      intro engine row
      simp [Formula.truth, Predicate.truth, Operator.Holds]
  | notEmpty =>
      cases found
      refine ⟨_, states_isNotNull reads, expresses_of_holds_iff rfl ?_⟩
      intro engine row
      simp [Formula.truth, Predicate.truth, Operator.Holds, ← Value.isNull_iff]
  | oneOf => exact exists_formula_oneOf column_reads reads found

end WhereClause

/-! ## Filters -/

namespace Filter

/-- The formula holds of the rows that the filter asks for; it is unknown of all rows when the
filter needs a value and has only nulls. -/
structure IsReadAs (filter : Filter) (type : FieldType) (correction : Correction)
    (column : String) (formula : Formula) : Prop where
  holds_iff : ∀ engine row, formula.truth engine row = .holds ↔
    filter.Holds engine type correction column row
  unknown : filter.operator.usesFirst = true → (∀ value ∈ filter.values, value = .null) →
    ∀ engine row, formula.truth engine row = .unknown

variable {filter : Filter} {type : FieldType} {correction : Correction} {column : String}
  {dialect : Dialect}

/-- Correction and upper case keep which values are blank. -/
theorem isBlank_boundValues (filter : Filter) (type : FieldType) (correction : Correction) :
    (filter.boundValues type correction).map Value.isBlank = filter.values.map Value.isBlank := by
  have outlines := congrArg (List.map Prod.snd) (filter.map_outline_boundValues type correction)
  simpa [Function.comp_def, Value.outline] using outlines

theorem isNull_boundValues (filter : Filter) (type : FieldType) (correction : Correction) :
    (filter.boundValues type correction).map Value.isNull = filter.values.map Value.isNull := by
  have outlines := congrArg (List.map Prod.fst) (filter.map_outline_boundValues type correction)
  simpa [Function.comp_def, Value.outline] using outlines

theorem isSome_between? (column : String) (values : List Value) :
    (Condition.between? column values).isSome =
      (values.take 2).any fun value => !value.isBlank := by
  have ends : (Condition.between? column values).isSome =
      ((Condition.bound? values 0).isSome || (Condition.bound? values 1).isSome) := by
    rw [between?_eq]
    cases Condition.bound? values 0 <;> cases Condition.bound? values 1 <;> rfl
  rw [ends]
  match values with
  | [] => rfl
  | [lower] => simp [Condition.bound?, Option.isSome_filter]
  | lower :: upper :: rest => simp [Condition.bound?, Option.isSome_filter]

/-- A filter has a condition exactly when it restricts something. -/
theorem isSome_condition? (filter : Filter) (type : FieldType) (column : String)
    (dialect : Dialect) (correction : Correction) :
    (filter.condition? type column dialect correction).isSome = filter.restricts := by
  have blank := filter.isBlank_boundValues type correction
  rw [condition?, restricts]
  cases filter.operator with
  | between =>
      have same := congrArg (fun blanks => (blanks.take 2).any (!·)) blank
      simp only [← List.map_take, List.any_map] at same
      exact (isSome_between? _ _).trans same
  | oneOf =>
      have same := congrArg List.isEmpty blank
      simp only [List.isEmpty_map] at same
      cases empty : filter.values.isEmpty <;>
        simp [Condition.ofOperator?, Condition.oneOf?, same, empty]
  | _ => rfl

theorem firstPresent?_boundValues (absent : ∀ value ∈ filter.values, value = .null) :
    Operator.firstPresent? (filter.boundValues type correction) = none := by
  rw [Operator.firstPresent?, List.find?_eq_none]
  intro value member
  have known : value.isNull ∈ filter.values.map Value.isNull := by
    rw [← filter.isNull_boundValues type correction]
    exact List.mem_map_of_mem member
  obtain ⟨given, given_member, same⟩ := List.mem_map.mp known
  simp [← same, absent given given_member]

/-- The column as the filter compares it. -/
def operand (filter : Filter) (column : String) : Operand :=
  if filter.ignoreCase then .folded column else .plain column

theorem reads_comparedColumn (plain : IsColumn column) :
    Reads (.ofText (filter.comparedColumn column dialect)) (filter.operand column).tokens := by
  rw [comparedColumn, operand]
  split
  · exact Reads.ofText_folded plain
  · exact Reads.ofText_column plain

theorem value_operand (engine : Engine) (row : Row) :
    (filter.operand column).value engine row =
      if filter.ignoreCase then engine.fold (row column) else row column := by
  rw [operand]
  split <;> rfl

/-- The condition of a filter on a plain column is read as what the filter asks. -/
theorem exists_formula {fragment : Fragment} (plain : IsColumn column)
    (found : filter.condition? type column dialect correction = some fragment) :
    ∃ formula, States fragment formula ∧ filter.IsReadAs type correction column formula := by
  obtain ⟨formula, states, expresses⟩ := WhereClause.exists_formula
    (Reads.ofText_column plain) (reads_comparedColumn plain) found
  refine ⟨formula, states, ?_, ?_⟩
  · intro engine row
    rw [expresses.holds_iff, value_operand, Holds, boundValues]
    split <;> rfl
  · intro uses absent
    exact expresses.unknown uses (firstPresent?_boundValues absent)

end Filter

end EntitySearch
