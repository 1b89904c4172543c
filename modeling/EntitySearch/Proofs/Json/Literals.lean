import EntitySearch.Json.Forms
import EntitySearch.Proofs.Numerals

/-!
# Integer literals in JSON text

An integer literal is read to its end: its digits are collected as long as 64 bits hold them, and
what is collected differs from the integer by less than one unit of its last place.
-/

namespace EntitySearch

/-! ## Numerals -/

namespace Text

/-- Only zero has a numeral that begins with one. -/
theorem head?_numeral_ne_zero {number : Nat} (positive : number ≠ 0) :
    (numeral number).head? ≠ some '0' := by
  fun_induction numeral number with
  | case1 number small =>
      have digits : ∀ digit < 10, digit ≠ 0 → [digitChar digit].head? ≠ some '0' := by decide
      exact digits number small positive
  | case2 number large front =>
      rw [List.head?_append, List.head?_eq_some_head (numeral_ne_nil _), Option.some_or,
        ← List.head?_eq_some_head (numeral_ne_nil _)]
      exact front (by omega)

theorem digitValue_le {char : Char} (digit : char.isDigit = true) : digitValue char ≤ 9 := by
  have range : 48 ≤ char.toNat ∧ char.toNat ≤ 57 := by
    simpa [Char.isDigit, UInt32.le_iff_toNat_le] using digit
  rw [digitValue]
  omega

/-- The number that a value and digits behind it make. -/
def valueBehind (value : Nat) (digits : List Char) : Nat :=
  digits.foldl (fun value digit => 10 * value + digitValue digit) value

theorem valueBehind_bounds {digits : List Char} (each : ∀ char ∈ digits, char.isDigit = true)
    (value : Nat) :
    value * 10 ^ digits.length ≤ valueBehind value digits ∧
      valueBehind value digits < (value + 1) * 10 ^ digits.length := by
  induction digits generalizing value with
  | nil => simp [valueBehind]
  | cons digit digits later =>
      have small := digitValue_le (each digit List.mem_cons_self)
      obtain ⟨lower, upper⟩ := later (fun char member => each char (List.mem_cons_of_mem _ member))
        (10 * value + digitValue digit)
      rw [List.length_cons, Nat.pow_succ', ← Nat.mul_assoc, ← Nat.mul_assoc]
      constructor
      · calc
          value * 10 * 10 ^ digits.length ≤
              (10 * value + digitValue digit) * 10 ^ digits.length :=
            Nat.mul_le_mul_right _ (by omega)
          _ ≤ valueBehind value (digit :: digits) := lower
      · calc
          valueBehind value (digit :: digits) <
              (10 * value + digitValue digit + 1) * 10 ^ digits.length := upper
          _ ≤ (value + 1) * 10 * 10 ^ digits.length := Nat.mul_le_mul_right _ (by omega)

end Text

namespace Json.Number

/-! ## Collecting digits -/

/-- What is collected of digits is their number without the last ones.  None is left over, or 64
bits hold neither the number nor one digit more. -/
structure Collects (total collected unread : Nat) : Prop where
  lower : collected * 10 ^ unread ≤ total
  upper : total < (collected + 1) * 10 ^ unread
  fits : collected < 2 ^ 64
  large : unread ≠ 0 → 2 ^ 64 ≤ total
  full : unread ≠ 0 → 2 ^ 64 ≤ 10 * collected + 9

theorem collects_collect {digits : List Char} (each : ∀ char ∈ digits, char.isDigit = true)
    {value : Nat} (small : value < 2 ^ 64) :
    Collects (Text.valueBehind value digits) (collect value digits).1
      (collect value digits).2 := by
  fun_induction collect value digits with
  | case1 value =>
      exact ⟨by simp [Text.valueBehind], by simp [Text.valueBehind], small, by simp, by simp⟩
  | case2 value digit digits next fits later =>
      exact later (fun char member => each char (List.mem_cons_of_mem _ member)) fits
  | case3 value digit digits next full =>
      obtain ⟨lower, upper⟩ := Text.valueBehind_bounds each value
      have one_digit := Text.digitValue_le (each digit List.mem_cons_self)
      have more := (Text.valueBehind_bounds
        (fun char member => each char (List.mem_cons_of_mem _ member)) next).1
      rw [UInt64.size] at full
      refine ⟨lower, upper, small, fun _ => ?_, fun _ => by omega⟩
      calc
        2 ^ 64 ≤ next := Nat.not_lt.mp full
        _ ≤ next * 10 ^ digits.length := Nat.le_mul_of_pos_right _ (Nat.pow_pos (by decide))
        _ ≤ Text.valueBehind value (digit :: digits) := more

theorem collects_numeral (number : Nat) :
    Collects number (collect 0 (Text.numeral number)).1 (collect 0 (Text.numeral number)).2 := by
  have same : Text.valueBehind 0 (Text.numeral number) = number := Text.digitsValue_numeral number
  have collects : Collects (Text.valueBehind 0 (Text.numeral number)) _ _ :=
    collects_collect (fun _ => Text.isDigit_of_mem_numeral) (by decide)
  rwa [same] at collects

theorem Collects.eq_total {total collected : Nat} (collects : Collects total collected 0) :
    collected = total := by
  obtain ⟨lower, upper, -⟩ := collects
  omega

/-- What 64 bits hold is collected to the last digit, and nothing else is. -/
theorem Collects.unread_eq_zero_iff {total collected unread : Nat}
    (collects : Collects total collected unread) : unread = 0 ↔ total < 2 ^ 64 := by
  constructor
  · rintro rfl
    exact collects.eq_total ▸ collects.fits
  · intro small
    by_contra left
    exact absurd small (Nat.not_lt.mpr (collects.large left))

/-! ## Reading digits -/

/-- What an integer is read as. -/
def ofWritten (number : Int) : Except ReadError Number :=
  let digits := collect 0 (Text.numeral number.natAbs)
  if digits.2 = 0 then .ok (ofInteger (number < 0) digits.1)
  else ofParts (number < 0) digits.1 digits.2

/-- No part of a number begins the text. -/
def Ends (text : List Char) : Prop :=
  ∀ char ∈ text.head?, char.isDigit = false ∧ char ≠ '.' ∧ char ≠ 'e' ∧ char ≠ 'E'

theorem readPower_of_ends (negative : Bool) (significand : Nat) (exponent : Int) {rest : List Char}
    (ends : Ends rest) :
    readPower negative significand exponent rest =
      (ofParts negative significand exponent).map fun number => (number, rest) := by
  fun_cases readPower negative significand exponent rest with
  | case1 rest => exact absurd rfl (ends 'e' rfl).2.2.1
  | case2 rest => exact absurd rfl (ends 'E' rfl).2.2.2
  | case3 => cases ofParts negative significand exponent <;> rfl

theorem read_numeral (number : Int) {rest : List Char} (ends : Ends rest) :
    read (number < 0) (Text.numeral number.natAbs ++ rest) =
      (ofWritten number).map fun read => (read, rest) := by
  obtain ⟨taken, left⟩ := Text.takeWhile_append_of_ends
    (fun _ => Text.isDigit_of_mem_numeral : ∀ char ∈ Text.numeral number.natAbs, _)
    (fun next first => (ends next first).1)
  have no_zero : ¬ ((Text.numeral number.natAbs).head? = some '0' ∧
      1 < (Text.numeral number.natAbs).length) := by
    rintro ⟨zero, longer⟩
    have nothing : number.natAbs = 0 := by
      by_contra positive
      exact Text.head?_numeral_ne_zero positive zero
    rw [nothing] at longer
    revert longer
    decide +kernel
  rw [read]
  simp only [taken, left, if_neg (Text.numeral_ne_nil number.natAbs), if_neg no_zero]
  have no_power : rest.head? ≠ some 'e' ∧ rest.head? ≠ some 'E' :=
    ⟨fun present => (ends 'e' present).2.2.1 rfl, fun present => (ends 'E' present).2.2.2 rfl⟩
  rw [ofWritten]
  split
  next fraction => exact absurd rfl (ends '.' rfl).2.1
  next =>
    by_cases whole : (collect 0 (Text.numeral number.natAbs)).2 = 0
    · simp only [if_pos whole, if_pos (And.intro whole no_power)]
      rfl
    · simp only [if_neg whole, if_neg fun both => whole (And.left both),
        readPower_of_ends _ _ _ ends]

end Json.Number

/-! ## Readers -/

namespace Json.Reader

variable {α β : Type} {reader : Reader α} {next : α → Reader β} {levels : Nat}
  {text rest : List Char} {value : α}

theorem bind_ok (read : reader levels text = .ok (value, rest)) :
    (reader >>= next) levels text = next value levels rest := by
  simp only [bind, ReaderT.bind, StateT.bind, read, Except.bind]

theorem bind_error {error : ReadError} (read : reader levels text = .error error) :
    (reader >>= next) levels text = .error error := by
  simp only [bind, ReaderT.bind, StateT.bind, read, Except.bind]

/-- Text of white space only. -/
def IsBlank (text : List Char) : Prop := ∀ char ∈ text, isSpace char = true

theorem bind_congr {other : List Char} (same : reader levels text = reader levels other) :
    (reader >>= next) levels text = (reader >>= next) levels other := by
  simp only [bind, ReaderT.bind, StateT.bind, same]

theorem peek_append {front : List Char} (blank : IsBlank front) (levels : Nat)
    (text : List Char) : peek levels (front ++ text) = peek levels text := by
  have present : peek? levels (front ++ text) = peek? levels text := by
    simp only [peek?, List.dropWhile_append_of_pos blank]
  exact bind_congr present

theorem peek_cons {char : Char} (solid : isSpace char = false) (levels : Nat) (rest : List Char) :
    peek levels (char :: rest) = .ok (char, char :: rest) := by
  have present : peek? levels (char :: rest) = .ok (some char, char :: rest) := by
    simp [peek?, solid]
  rw [peek, bind_ok present]
  rfl

/-- A character that a number begins with. -/
def IsNumberStart (char : Char) : Prop := char = '-' ∨ char.isDigit = true

theorem isSpace_of_isNumberStart {char : Char} (start : IsNumberStart char) :
    isSpace char = false := by
  rcases start with rfl | digit
  · rfl
  · simp only [isSpace, Bool.or_eq_false_iff, beq_eq_false_iff_ne]
    refine ⟨⟨⟨?_, ?_⟩, ?_⟩, ?_⟩ <;> rintro rfl <;> simp at digit

theorem found_of_isNumberStart {char : Char} (start : IsNumberStart char) (levels : Nat)
    (rest : List Char) :
    found levels (char :: rest) =
      (do return (← number).found : Reader Found) levels (char :: rest) := by
  rw [found, bind_ok (peek_cons (isSpace_of_isNumberStart start) levels rest)]
  have no_other {other : Char} (same : char = other) (no_minus : other ≠ '-')
      (no_digit : other.isDigit = false) : False := by
    subst same
    rcases start with minus | digit
    · exact no_minus minus
    · exact absurd digit (by simp [no_digit])
  split
  case h_7 => exact congrFun (congrFun (if_pos start) levels) (char :: rest)
  all_goals exact (no_other rfl (by decide) (by decide)).elim

/-- A written integer is a number to its end. -/
theorem number_signedNumeral (integer : Int) (ends : Number.Ends rest) (levels : Nat) :
    number levels (Text.signedNumeral integer ++ rest) =
      (Number.ofWritten integer).map fun read => (read, rest) := by
  have read := Number.read_numeral integer ends
  rw [Text.signedNumeral]
  split
  next negative =>
    rw [decide_eq_true negative] at read
    exact read
  next natural =>
    rw [decide_eq_false natural] at read
    obtain ⟨first, tail, spelled⟩ := List.exists_cons_of_ne_nil (Text.numeral_ne_nil integer.natAbs)
    have digit : first.isDigit = true := Text.isDigit_of_mem_numeral (spelled ▸ List.mem_cons_self)
    rw [spelled] at read ⊢
    rw [number, lift]
    split
    next rest same =>
      obtain ⟨rfl, -⟩ := List.cons.inj same
      cases digit
    next => exact read

theorem exists_signedNumeral_eq (integer : Int) :
    ∃ first tail, Text.signedNumeral integer = first :: tail ∧ IsNumberStart first := by
  rw [Text.signedNumeral]
  split
  · exact ⟨'-', _, rfl, .inl rfl⟩
  · obtain ⟨first, tail, spelled⟩ := List.exists_cons_of_ne_nil (Text.numeral_ne_nil integer.natAbs)
    exact ⟨first, tail, spelled, .inr (Text.isDigit_of_mem_numeral (spelled ▸ List.mem_cons_self))⟩

theorem found_signedNumeral (integer : Int) (ends : Number.Ends rest) (levels : Nat) :
    found levels (Text.signedNumeral integer ++ rest) =
      (Number.ofWritten integer).map fun read => (read.found, rest) := by
  have read := number_signedNumeral integer ends levels
  obtain ⟨first, tail, spelled, start⟩ := exists_signedNumeral_eq integer
  rw [spelled, List.cons_append] at read ⊢
  rw [found_of_isNumberStart start]
  cases written : Number.ofWritten integer with
  | error error =>
      rw [written] at read
      exact bind_error read
  | ok number =>
      rw [written] at read
      exact bind_ok read

end Json.Reader

namespace Value

theorem readLevel_signedNumeral (element : Json.Reader (Option Value)) (integer : Int)
    {rest : List Char} (ends : Json.Number.Ends rest) (levels : Nat) :
    readLevel element levels (Text.signedNumeral integer ++ rest) =
      (Json.Number.ofWritten integer).map fun number => (some (ofNumber number), rest) := by
  have found := Json.Reader.found_signedNumeral integer ends levels
  obtain ⟨first, tail, spelled, start⟩ := Json.Reader.exists_signedNumeral_eq integer
  rw [spelled, List.cons_append] at found ⊢
  rw [readLevel, Json.Reader.bind_ok
    (Json.Reader.peek_cons (Json.Reader.isSpace_of_isNumberStart start) levels _)]
  split
  case h_3 =>
    cases written : Json.Number.ofWritten integer with
    | error error =>
        rw [written] at found
        exact Json.Reader.bind_error found
    | ok number =>
        rw [written] at found
        rw [Json.Reader.bind_ok found]
        cases number <;> rfl
  all_goals
    rcases start with minus | digit
    · exact absurd minus (by decide)
    · exact absurd digit (by decide)

/-- White space before a value is dropped. -/
theorem read_append {front : List Char} (blank : Json.Reader.IsBlank front) (levels : Nat)
    (text : List Char) : read levels (front ++ text) = read levels text := by
  have scalar : readScalar Json.Reader.maxDepth levels (front ++ text) =
      readScalar Json.Reader.maxDepth levels text :=
    Json.Reader.bind_congr (Json.Reader.peek_append blank levels text)
  exact Json.Reader.bind_congr scalar

/-- Where a value is wanted, an integer is read as its number. -/
theorem read_signedNumeral (integer : Int) {rest : List Char} (ends : Json.Number.Ends rest)
    (levels : Nat) :
    read levels (Text.signedNumeral integer ++ rest) =
      (Json.Number.ofWritten integer).map fun number => (ofNumber number, rest) := by
  have scalar : readScalar Json.Reader.maxDepth levels (Text.signedNumeral integer ++ rest) = _ :=
    readLevel_signedNumeral _ integer ends levels
  cases written : Json.Number.ofWritten integer with
  | error error =>
      rw [written] at scalar
      exact Json.Reader.bind_error scalar
  | ok number =>
      rw [written] at scalar
      exact Json.Reader.bind_ok scalar

end Value

end EntitySearch
