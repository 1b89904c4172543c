import EntitySearch.Proofs.Numerals
import EntitySearch.Value
import Mathlib.Data.List.Basic

/-!
# Upper case is final

What upper-casing produces it does not change again.  The displays of integers, of finite doubles
and of timestamps have no letters, so they are in upper case; the words for truth values and for the
doubles without digits are not.
-/

namespace EntitySearch

namespace Text

/-! ## Code points in upper case -/

/-- The code points of the stretch. -/
def CaseStretch.codes (stretch : CaseStretch) : List Nat :=
  List.range' stretch.first ((stretch.last - stretch.first) / stretch.step + 1) stretch.step

theorem CaseStretch.mem_codes {stretch : CaseStretch} {code : Nat}
    (contained : stretch.contains code = true) : code ∈ stretch.codes := by
  simp only [contains, Bool.and_eq_true, decide_eq_true_eq, beq_iff_eq] at contained
  obtain ⟨⟨from_first, to_last⟩, on_grid⟩ := contained
  refine List.mem_range'.mpr ⟨(code - stretch.first) / stretch.step, ?_, ?_⟩
  · exact Nat.lt_succ_of_le (Nat.div_le_div_right (by omega))
  · rw [Nat.mul_div_cancel' (Nat.dvd_of_mod_eq_zero on_grid)]
    omega

/-- The code points that have an upper case of their own. -/
def casedCodes : List Nat := upperStretches.flatMap (·.codes) ++ upperExpansions.map (·.1)

/-- The code points in the upper case of others. -/
def producedCodes : List Nat :=
  (upperStretches.flatMap fun stretch => stretch.codes.map stretch.apply) ++
    upperExpansions.flatMap (·.2)

/-- The number with a bit for every code point. -/
def marks : List Nat → Nat
  | [] => 0
  | code :: codes => 2 ^ code ||| marks codes

theorem testBit_marks (codes : List Nat) (code : Nat) :
    (marks codes).testBit code = true ↔ code ∈ codes := by
  induction codes with
  | nil => simp [marks]
  | cons first codes ih =>
      simp only [marks, Nat.testBit_or, Nat.testBit_two_pow, Bool.or_eq_true, decide_eq_true_eq,
        List.mem_cons, ih]
      rw [eq_comm]

-- Bit by bit, the two lists are compared in one operation on numbers.
theorem marks_producedCodes : marks producedCodes &&& marks casedCodes = 0 := by
  decide +kernel

theorem not_mem_casedCodes_of_produced {code : Nat} (produced : code ∈ producedCodes) :
    code ∉ casedCodes := by
  intro cased
  have both : (marks producedCodes &&& marks casedCodes).testBit code = true := by
    rw [Nat.testBit_and, (testBit_marks _ code).mpr produced, (testBit_marks _ code).mpr cased]
    rfl
  rw [marks_producedCodes, Nat.zero_testBit] at both
  cases both

/-- A code point either has an upper case of its own, all of it produced, or is its own upper
case. -/
theorem upperCodes_cases (code : Nat) :
    (code ∈ casedCodes ∧ ∀ image ∈ upperCodes code, image ∈ producedCodes) ∨
      upperCodes code = [code] := by
  rw [upperCodes]
  split
  · rename_i expansion found
    obtain ⟨before, after, whole, -⟩ := List.lookup_eq_some_iff.mp found
    have known : (code, expansion) ∈ upperExpansions := by simp [whole]
    refine Or.inl ⟨?_, fun image member => ?_⟩
    · exact List.mem_append_right _ (List.mem_map_of_mem known)
    · exact List.mem_append_right _ (List.mem_flatMap.mpr ⟨_, known, member⟩)
  · split
    · rename_i stretch found
      have known := List.mem_of_find?_eq_some found
      have contained := List.find?_some found
      have within := CaseStretch.mem_codes contained
      refine Or.inl ⟨?_, fun image member => ?_⟩
      · exact List.mem_append_left _ (List.mem_flatMap.mpr ⟨stretch, known, within⟩)
      · obtain rfl := List.mem_singleton.mp member
        exact List.mem_append_left _
          (List.mem_flatMap.mpr ⟨stretch, known, List.mem_map_of_mem within⟩)
    · exact Or.inr rfl

theorem upperCodes_of_not_mem {code : Nat} (caseless : code ∉ casedCodes) :
    upperCodes code = [code] :=
  (upperCodes_cases code).resolve_left fun cased => caseless cased.1

theorem upperCodes_of_mem_upperCodes {code image : Nat} (member : image ∈ upperCodes code) :
    upperCodes image = [image] := by
  rcases upperCodes_cases code with ⟨-, produced⟩ | own
  · exact upperCodes_of_not_mem (not_mem_casedCodes_of_produced (produced image member))
  · rw [own] at member
    obtain rfl := List.mem_singleton.mp member
    exact own

/-! ## Texts in upper case -/

theorem upperChar_ofNat {code : Nat} (own : upperCodes code = [code]) :
    upperChar (Char.ofNat code) = [Char.ofNat code] := by
  -- An invalid code point stands for the null character, which has no upper case.
  by_cases valid : code.isValidChar
  · have valid_toNat : (Char.ofNat code).toNat = code := by
      rw [Char.ofNat, dif_pos valid]
      rfl
    rw [upperChar, valid_toNat, own, List.map_singleton]
  · rw [Char.ofNat, dif_neg valid]
    decide +kernel

theorem flatMap_upperChar_upperChar (char : Char) :
    (upperChar char).flatMap upperChar = upperChar char := by
  have own : ∀ code ∈ upperCodes char.toNat,
      upperChar (Char.ofNat code) = [Char.ofNat code] := fun code member =>
    upperChar_ofNat (upperCodes_of_mem_upperCodes member)
  rw [upperChar, List.flatMap_map, List.flatMap_congr own, ← List.map_eq_flatMap]

/-- A text in upper case stays as it is. -/
@[simp]
theorem upper_upper (text : String) : upper (upper text) = upper text := by
  simp [upper, List.flatMap_assoc, flatMap_upperChar_upperChar]

/-- All characters stand before the small letters. -/
def BeforeSmallLetters (chars : List Char) : Prop := ∀ char ∈ chars, char.toNat < 'a'.toNat

theorem le_of_mem_casedCodes : ∀ code ∈ casedCodes, 'a'.toNat ≤ code := by
  decide +kernel

theorem BeforeSmallLetters.upper_ofList {chars : List Char} (before : BeforeSmallLetters chars) :
    upper (String.ofList chars) = String.ofList chars := by
  have own : ∀ char ∈ chars, upperChar char = [char] := by
    intro char member
    have caseless : char.toNat ∉ casedCodes := fun cased =>
      absurd (le_of_mem_casedCodes _ cased) (Nat.not_le.mpr (before char member))
    rw [upperChar, upperCodes_of_not_mem caseless]
    simp
  rw [upper, String.toList_ofList, List.flatMap_congr own, List.flatMap_singleton']

namespace BeforeSmallLetters

variable {chars others : List Char}

@[simp]
theorem cons_iff {char : Char} :
    BeforeSmallLetters (char :: chars) ↔ char.toNat < 'a'.toNat ∧ BeforeSmallLetters chars :=
  List.forall_mem_cons

@[simp]
theorem append_iff :
    BeforeSmallLetters (chars ++ others) ↔ BeforeSmallLetters chars ∧ BeforeSmallLetters others :=
  List.forall_mem_append

theorem zeros (count : Nat) : BeforeSmallLetters (List.replicate count '0') := by
  intro char member
  rw [List.eq_of_mem_replicate member]
  decide

theorem of_isDigit (digits : ∀ char ∈ chars, char.isDigit = true) : BeforeSmallLetters chars := by
  intro char member
  have range : 48 ≤ char.toNat ∧ char.toNat ≤ 57 := by
    simpa [Char.isDigit, UInt32.le_iff_toNat_le] using digits char member
  exact Nat.lt_of_le_of_lt range.2 (by decide)

theorem numeral (number : Nat) : BeforeSmallLetters (numeral number) :=
  of_isDigit fun _ => isDigit_of_mem_numeral

theorem paddedNumeral (width number : Nat) : BeforeSmallLetters (paddedNumeral width number) :=
  of_isDigit fun _ => isDigit_of_mem_paddedNumeral

theorem signedNumeral (number : Int) : BeforeSmallLetters (signedNumeral number) := by
  rw [Text.signedNumeral]
  split
  · exact cons_iff.mpr ⟨by decide, numeral _⟩
  · exact numeral _

end BeforeSmallLetters

end Text

open Text

/-! ## Displays in upper case -/

theorem DoubleLayout.beforeSmallLetters_wholeFraction :
    BeforeSmallLetters plain.wholeFraction := fun _ member => by
  cases member

theorem DoubleLayout.beforeSmallLetters_pointed {digits : List Char}
    (before : BeforeSmallLetters digits) (point : Int) :
    BeforeSmallLetters (plain.pointed digits point) := by
  rw [pointed]
  split
  · simp [before, BeforeSmallLetters.zeros]
  · split
    · have front : BeforeSmallLetters (digits.take point.toNat) := fun char member =>
        before char (List.mem_of_mem_take member)
      have back : BeforeSmallLetters (digits.drop point.toNat) := fun char member =>
        before char (List.mem_of_mem_drop member)
      simp [front, back]
    · simp [before, BeforeSmallLetters.zeros, beforeSmallLetters_wholeFraction]

theorem DoubleLayout.beforeSmallLetters_text (negative : Bool) (significand : Nat) (exponent : Int)
    (canonical : CanonicalBinary significand exponent) :
    BeforeSmallLetters (plain.text (.finite negative significand exponent canonical)) := by
  have magnitude : BeforeSmallLetters (if significand = 0 then '0' :: plain.wholeFraction
      else plain.decimalText
        ((RoundingInterval.ofDouble significand exponent).shortest plain.tie)) := by
    split
    · exact BeforeSmallLetters.cons_iff.mpr ⟨by decide, beforeSmallLetters_wholeFraction⟩
    · exact beforeSmallLetters_pointed (BeforeSmallLetters.numeral _) _
  rw [text]
  split
  · exact BeforeSmallLetters.cons_iff.mpr ⟨by decide, magnitude⟩
  · exact magnitude

theorem Date.beforeSmallLetters_yearText (year : Int) : BeforeSmallLetters (yearText year) := by
  rw [yearText]
  split
  · exact BeforeSmallLetters.cons_iff.mpr ⟨by decide, .paddedNumeral _ _⟩
  · split
    · exact BeforeSmallLetters.cons_iff.mpr ⟨by decide, .paddedNumeral _ _⟩
    · exact .paddedNumeral _ _

theorem Timestamp.beforeSmallLetters_display (timestamp : Timestamp) :
    BeforeSmallLetters (timestamp.date.text ++ ' ' :: timestamp.time.wholeText) := by
  simp [Date.text, Time.wholeText, Date.beforeSmallLetters_yearText,
    BeforeSmallLetters.paddedNumeral]

namespace Value

@[simp]
theorem upper_upper (value : Value) : value.upper.upper = value.upper := by
  cases value with
  | text text => exact congrArg Value.text (Text.upper_upper text)
  | _ => rfl

theorem upper_eq_self_iff {value : Value} :
    value.upper = value ↔ ∀ content, value = .text content → Text.upper content = content := by
  cases value <;> simp [upper]

/-- The display is a word. -/
inductive IsWord : Value → Prop
  | boolean (value : Bool) : IsWord (.boolean value)
  | nan : IsWord (.double .nan)
  | infinite (negative : Bool) : IsWord (.double (.infinite negative))

/-- Of the values that upper-casing leaves as they are, just the words are not displayed in upper
case. -/
theorem upper_display_iff {value : Value} (present : value ≠ .null) (folded : value.upper = value) :
    Text.upper value.display = value.display ↔ ¬value.IsWord := by
  cases value with
  | null => contradiction
  | boolean value =>
      refine iff_of_false ?_ (not_not_intro (.boolean value))
      cases value <;> decide +kernel
  | integer value =>
      exact iff_of_true (BeforeSmallLetters.signedNumeral _).upper_ofList nofun
  | double value =>
      cases value with
      | nan => exact iff_of_false (by decide +kernel) (not_not_intro .nan)
      | infinite negative =>
          refine iff_of_false ?_ (not_not_intro (.infinite negative))
          cases negative <;> decide +kernel
      | finite negative significand exponent canonical =>
          exact iff_of_true (DoubleLayout.beforeSmallLetters_text _ _ _ _).upper_ofList nofun
  | text text => exact iff_of_true (Value.text.inj folded) nofun
  | timestamp value =>
      exact iff_of_true value.beforeSmallLetters_display.upper_ofList nofun

end Value

end EntitySearch
