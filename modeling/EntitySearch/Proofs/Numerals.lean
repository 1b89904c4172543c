import EntitySearch.Text.Blank
import EntitySearch.Text.Numeral
import Mathlib.Algebra.Group.Nat.Defs
import Mathlib.Logic.Function.Basic

/-!
# Numerals of a fixed width

A numeral is made of digits only, and filled up with zeros it has the width that is asked for and
still reads as its number.
-/

namespace EntitySearch.Text

/-- A word is taken up to what is no part of it. -/
theorem takeWhile_append_of_ends {test : Char → Bool} {word behind : List Char}
    (each : ∀ char ∈ word, test char = true) (ends : ∀ next ∈ behind.head?, test next = false) :
    (word ++ behind).takeWhile test = word ∧ (word ++ behind).dropWhile test = behind := by
  rw [List.takeWhile_append_of_pos each, List.dropWhile_append_of_pos each]
  cases behind with
  | nil => simp
  | cons next behind => simp [ends next rfl]

theorem isDigit_digitChar {digit : Nat} (small : digit < 10) :
    (digitChar digit).isDigit = true := by
  match digit, small with
  | 0, _ | 1, _ | 2, _ | 3, _ | 4, _ | 5, _ | 6, _ | 7, _ | 8, _ | 9, _ => rfl

theorem isWhiteSpace_of_isDigit {char : Char} (digit : char.isDigit = true) :
    isWhiteSpace char = false := by
  have range : 48 ≤ char.toNat ∧ char.toNat ≤ 57 := by
    simpa [Char.isDigit, UInt32.le_iff_toNat_le] using digit
  simp only [isWhiteSpace, inRanges, whiteSpaceRanges, List.any_cons, List.any_nil]
  grind

theorem numeral_ne_nil (number : Nat) : numeral number ≠ [] := by
  rw [numeral]
  split <;> simp

theorem numeral_injective : Function.Injective numeral :=
  Function.LeftInverse.injective digitsValue_numeral

/-- The numbers whose numerals begin a numeral are what is left of its number without its last
digits. -/
theorem exists_eq_div_of_prefix {number other : Nat} (leads : numeral other <+: numeral number) :
    ∃ places, other = number / 10 ^ places := by
  fun_induction numeral number with
  | case1 number small =>
      refine ⟨0, numeral_injective ?_⟩
      rcases List.prefix_cons_iff.mp leads with empty | ⟨rest, whole, nothing⟩
      · exact absurd empty (numeral_ne_nil other)
      · rw [List.prefix_nil.mp nothing] at whole
        rw [whole, Nat.pow_zero, Nat.div_one, numeral, if_pos small]
  | case2 number large front =>
      rcases List.prefix_concat_iff.mp leads with whole | front_leads
      · refine ⟨0, numeral_injective ?_⟩
        rw [whole, Nat.pow_zero, Nat.div_one, eq_comm, numeral, if_neg large]
      · obtain ⟨places, rfl⟩ := front front_leads
        exact ⟨places + 1, by rw [Nat.div_div_eq_div_mul, Nat.pow_succ']⟩

theorem isDigit_of_mem_numeral {number : Nat} {char : Char} (member : char ∈ numeral number) :
    char.isDigit = true := by
  fun_induction numeral number with
  | case1 number small =>
      obtain rfl := List.mem_singleton.mp member
      exact isDigit_digitChar small
  | case2 number large earlier =>
      rcases List.mem_append.mp member with member | member
      · exact earlier member
      · obtain rfl := List.mem_singleton.mp member
        exact isDigit_digitChar (Nat.mod_lt _ (by omega))

theorem length_numeral_le {width number : Nat} (fits : number < 10 ^ (width + 1)) :
    (numeral number).length ≤ width + 1 := by
  induction width generalizing number with
  | zero =>
      rw [numeral, if_pos (by simpa using fits)]
      simp
  | succ width shorter =>
      rw [numeral]
      split
      · simp
      · have front := shorter (Nat.div_lt_of_lt_mul (by rwa [Nat.pow_succ'] at fits))
        simpa using front

theorem isDigit_of_mem_paddedNumeral {width number : Nat} {char : Char}
    (member : char ∈ paddedNumeral width number) : char.isDigit = true := by
  rcases List.mem_append.mp member with zero | digit
  · obtain rfl := List.eq_of_mem_replicate zero
    rfl
  · exact isDigit_of_mem_numeral digit

theorem paddedNumeral_ne_nil (width number : Nat) : paddedNumeral width number ≠ [] :=
  List.append_ne_nil_of_right_ne_nil _ (numeral_ne_nil number)

theorem length_paddedNumeral {width number : Nat} (positive : width ≠ 0)
    (fits : number < 10 ^ width) : (paddedNumeral width number).length = width := by
  obtain ⟨front, rfl⟩ := Nat.exists_eq_succ_of_ne_zero positive
  rw [paddedNumeral, List.length_append, List.length_replicate,
    Nat.sub_add_cancel (length_numeral_le fits)]

theorem digitsValue_zeros_append (count : Nat) (digits : List Char) :
    digitsValue (List.replicate count '0' ++ digits) = digitsValue digits := by
  induction count with
  | zero => rfl
  | succ count induction => exact induction

theorem digitsValue_paddedNumeral (width number : Nat) :
    digitsValue (paddedNumeral width number) = number := by
  rw [paddedNumeral, digitsValue_zeros_append, digitsValue_numeral]

theorem head?_paddedNumeral_append (width number : Nat) (rest : List Char) :
    ∀ char ∈ (paddedNumeral width number ++ rest).head?, char.isDigit = true := by
  intro char first
  rw [List.head?_append, List.head?_eq_some_head (paddedNumeral_ne_nil width number),
    Option.some_or, Option.mem_some_iff] at first
  exact isDigit_of_mem_paddedNumeral (first ▸ List.head_mem _)

theorem getLast?_append_paddedNumeral (front : List Char) (width number : Nat) :
    ∀ char ∈ (front ++ paddedNumeral width number).getLast?, char.isDigit = true := by
  intro char last
  rw [List.getLast?_append, List.getLast?_eq_some_getLast (paddedNumeral_ne_nil width number),
    Option.some_or, Option.mem_some_iff] at last
  exact isDigit_of_mem_paddedNumeral (last ▸ List.getLast_mem _)

end EntitySearch.Text
