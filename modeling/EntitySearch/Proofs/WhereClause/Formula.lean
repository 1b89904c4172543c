import EntitySearch.Proofs.WhereClause.Token

/-!
# Formulas over rows

A condition of a where clause says something of every row.  It holds, fails or is unknown: nothing
is known of a comparison with null.
-/

namespace EntitySearch.WhereClause

/-- The three truth values of SQL. -/
inductive Truth where
  | holds
  | fails
  | unknown
  deriving DecidableEq, Repr

namespace Truth

def ofBool (bool : Bool) : Truth := if bool then holds else fails

def and : Truth → Truth → Truth
  | holds, right => right
  | fails, _ => fails
  | unknown, fails => fails
  | unknown, _ => unknown

def or : Truth → Truth → Truth
  | fails, right => right
  | holds, _ => holds
  | unknown, holds => holds
  | unknown, _ => unknown

/-- Nothing is known about null. -/
def ofPresent (left right : Value) (answer : Bool) : Truth :=
  if left.isNull || right.isNull then unknown else ofBool answer

@[simp]
theorem ofBool_eq_holds_iff (bool : Bool) : ofBool bool = holds ↔ bool = true := by
  cases bool <;> simp [ofBool]

theorem ofPresent_eq_holds_iff {left right : Value} {answer : Bool} :
    ofPresent left right answer = holds ↔ left ≠ .null ∧ right ≠ .null ∧ answer = true := by
  rw [ofPresent]
  split
  · rename_i absent
    rw [Bool.or_eq_true, Value.isNull_iff, Value.isNull_iff] at absent
    simp only [reduceCtorEq, false_iff]
    tauto
  · rename_i present
    rw [Bool.or_eq_true, Value.isNull_iff, Value.isNull_iff, not_or] at present
    simp [present]

theorem ofPresent_null (left : Value) (answer : Bool) : ofPresent left .null answer = unknown := by
  simp [ofPresent]

@[simp]
theorem and_eq_holds_iff (left right : Truth) :
    left.and right = holds ↔ left = holds ∧ right = holds := by
  cases left <;> cases right <;> simp [and]

@[simp]
theorem or_eq_holds_iff (left right : Truth) :
    left.or right = holds ↔ left = holds ∨ right = holds := by
  cases left <;> cases right <;> simp [or]

end Truth

/-- A column, as it is or with its letters folded to upper case. -/
inductive Operand where
  | plain (column : String)
  | folded (column : String)
  deriving DecidableEq, Repr

/-- What is asked of a column. -/
inductive Predicate where
  | compared (comparison : Comparison) (value : Value)
  | like (pattern : Value)
  | between (lower upper : Value)
  | null
  | notNull
  deriving DecidableEq, Repr

/-- A condition on rows. -/
inductive Formula where
  | predicate (operand : Operand) (asked : Predicate)
  | both (left right : Formula)
  | either (left right : Formula)
  /-- Tokens that are none of the conditions above. -/
  | other (tokens : List Token)
  deriving DecidableEq, Repr

/-- The values of the columns of a row. -/
abbrev Row := String → Value

/-- How an engine treats values that are not null, and the conditions that are no predicates. -/
structure Engine where
  compares : Comparison → Value → Value → Bool
  isLike : Value → Value → Bool
  fold : Value → Value
  other : Row → List Token → Truth

namespace Engine

variable (engine : Engine)

def compare (comparison : Comparison) (left right : Value) : Truth :=
  .ofPresent left right (engine.compares comparison left right)

def like (value pattern : Value) : Truth := .ofPresent value pattern (engine.isLike value pattern)

/-- Both values are there, and the comparison is true of them. -/
def Compares (comparison : Comparison) (left right : Value) : Prop :=
  left ≠ .null ∧ right ≠ .null ∧ engine.compares comparison left right = true

/-- Both values are there, and the one is like the other. -/
def IsLike (value pattern : Value) : Prop :=
  value ≠ .null ∧ pattern ≠ .null ∧ engine.isLike value pattern = true

theorem compare_eq_holds_iff {comparison : Comparison} {left right : Value} :
    engine.compare comparison left right = .holds ↔ engine.Compares comparison left right :=
  Truth.ofPresent_eq_holds_iff

theorem like_eq_holds_iff {value pattern : Value} :
    engine.like value pattern = .holds ↔ engine.IsLike value pattern :=
  Truth.ofPresent_eq_holds_iff

end Engine

def Operand.value (engine : Engine) (row : Row) : Operand → Value
  | plain column => row column
  | folded column => engine.fold (row column)

def Predicate.truth (engine : Engine) (value : Value) : Predicate → Truth
  | compared comparison other => engine.compare comparison value other
  | like pattern => engine.like value pattern
  | between lower upper =>
      (engine.compare .atLeast value lower).and (engine.compare .atMost value upper)
  | null => .ofBool value.isNull
  | notNull => .ofBool !value.isNull

namespace Formula

def truth (engine : Engine) (row : Row) : Formula → Truth
  | .predicate operand asked => asked.truth engine (operand.value engine row)
  | both left right => (left.truth engine row).and (right.truth engine row)
  | either left right => (left.truth engine row).or (right.truth engine row)
  | other tokens => engine.other row tokens

/-- The conjunction of some formulas, and nothing of none. -/
def all : List Formula → Formula
  | [] => other []
  | first :: others => others.foldl both first

/-- The disjunction of some formulas, and nothing of none. -/
def any : List Formula → Formula
  | [] => other []
  | first :: others => others.foldl either first

theorem any_any_append {start : List Formula} (present : start ≠ []) (formulas : List Formula) :
    any (any start :: formulas) = any (start ++ formulas) := by
  obtain ⟨first, others, rfl⟩ := List.exists_cons_of_ne_nil present
  simp [any, List.foldl_append]

theorem truth_foldl_either_iff {engine : Engine} {row : Row} (first : Formula)
    (others : List Formula) :
    (others.foldl either first).truth engine row = .holds ↔
      ∃ formula ∈ first :: others, formula.truth engine row = .holds := by
  induction others generalizing first with
  | nil => simp
  | cons next others induction =>
      rw [List.foldl_cons, induction]
      simp [truth, or_assoc]

/-- A disjunction holds where one of its formulas does. -/
theorem truth_any_iff {engine : Engine} {row : Row} {formulas : List Formula}
    (present : formulas ≠ []) :
    (any formulas).truth engine row = .holds ↔
      ∃ formula ∈ formulas, formula.truth engine row = .holds := by
  obtain ⟨first, others, rfl⟩ := List.exists_cons_of_ne_nil present
  exact truth_foldl_either_iff first others

end Formula

end EntitySearch.WhereClause
