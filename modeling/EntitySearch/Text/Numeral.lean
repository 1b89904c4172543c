/-!
# Decimal numerals

The digits of natural numbers, and how digits are read and written with a fixed width.
-/

namespace EntitySearch.Text

/-- The value of one digit character. -/
def digitValue (char : Char) : Nat := char.toNat - 48

/-- The digit character of a number below ten. -/
def digitChar (digit : Nat) : Char := Char.ofNat (48 + digit)

/-- The number written by a list of digit characters, read from left to right. -/
def digitsValue (digits : List Char) : Nat :=
  digits.foldl (fun value digit => 10 * value + digitValue digit) 0

/-- The decimal digits of a number, without leading zeros. -/
def numeral (number : Nat) : List Char :=
  if number < 10 then [digitChar number] else numeral (number / 10) ++ [digitChar (number % 10)]
termination_by number
decreasing_by omega

/-- The digits of a number, with zeros in front up to the given width. -/
def paddedNumeral (width number : Nat) : List Char :=
  let digits := numeral number
  List.replicate (width - digits.length) '0' ++ digits

/-- An integer with a minus sign in front when it is negative. -/
def signedNumeral (number : Int) : List Char :=
  if number < 0 then '-' :: numeral number.natAbs else numeral number.natAbs

/-- Hexadecimal digits, in lower case and without leading zeros. -/
def hexNumeral (number : Nat) : List Char :=
  let digit (value : Nat) : Char := if value < 10 then digitChar value else Char.ofNat (87 + value)
  if number < 16 then [digit number] else hexNumeral (number / 16) ++ [digit (number % 16)]
termination_by number
decreasing_by omega

theorem digitsValue_append_singleton (digits : List Char) (digit : Char) :
    digitsValue (digits ++ [digit]) = 10 * digitsValue digits + digitValue digit := by
  simp [digitsValue]

theorem digitValue_digitChar {digit : Nat} (small : digit < 10) :
    digitValue (digitChar digit) = digit := by
  match digit, small with
  | 0, _ | 1, _ | 2, _ | 3, _ | 4, _ | 5, _ | 6, _ | 7, _ | 8, _ | 9, _ => rfl

/-- A numeral reads back as its number. -/
theorem digitsValue_numeral (number : Nat) : digitsValue (numeral number) = number := by
  fun_induction numeral number with
  | case1 number small => simpa [digitsValue] using digitValue_digitChar small
  | case2 number large ih =>
      rw [digitsValue_append_singleton, ih, digitValue_digitChar (Nat.mod_lt _ (by omega))]
      omega

end EntitySearch.Text
