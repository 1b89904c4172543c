import EntitySearch.Decimal.Double
import EntitySearch.Text.Numeral

/-!
# Decimal numbers

A decimal is a natural number of digits times a power of ten.  This module reads a decimal as the
nearest double, and finds the shortest decimal that reads back as a given double: on the coarsest
grid of powers of ten that meets the interval of numbers rounding to the double, the grid point
nearest to it.
-/

namespace EntitySearch

/-- The number `digits * 10 ^ exponent`. -/
structure Decimal where
  /-- The digits, read as one number. -/
  digits : Nat
  /-- The power of ten that the last digit counts. -/
  exponent : Int
  deriving DecidableEq, Repr

/-- What becomes of a number halfway between two neighbours. -/
inductive Tie where
  /-- It goes to the greater neighbour. -/
  | up
  /-- It goes to the even neighbour. -/
  | even
  deriving DecidableEq, Repr

namespace Decimal

/-- How many digits the decimal has. -/
def length (decimal : Decimal) : Nat := (Text.numeral decimal.digits).length

/-- The double nearest to the decimal.  Decimals far outside the range of doubles are settled by
their length alone. -/
def toDouble (negative : Bool) (decimal : Decimal) : Double :=
  let magnitude := decimal.length + decimal.exponent
  if decimal.digits = 0 ∨ magnitude < -400 then Double.zero negative
  else if 400 < magnitude then .infinite negative
  else
    let (numerator, denominator) := scaledRatio 10 decimal.digits 1 decimal.exponent
    Double.ofRatio negative numerator denominator

/-- The decimal without the zeros at its end. -/
def withoutTrailingZeros (decimal : Decimal) : Decimal :=
  if decimal.digits ≠ 0 ∧ decimal.digits % 10 = 0 then
    withoutTrailingZeros ⟨decimal.digits / 10, decimal.exponent + 1⟩
  else decimal
termination_by decimal.digits
decreasing_by omega

end Decimal

/-- The open or closed interval of positive numbers that round to one double, in quarters of a unit
of its last place: four times the significand, the distances to both ends, and the exponent of a
quarter. -/
structure RoundingInterval where
  /-- The number itself, in quarters. -/
  center : Nat
  /-- The distance to the lower end. -/
  below : Nat
  /-- The distance to the upper end. -/
  above : Nat
  /-- The power of two that a quarter is. -/
  exponent : Int
  /-- Both ends belong to the interval. -/
  closed : Bool
  deriving DecidableEq, Repr

namespace RoundingInterval

/-- The interval of a positive double.  The neighbour below a power of two is half as far away as
the one above; ties go to the even significand, so the ends round to an even one. -/
def ofDouble (significand : Nat) (exponent : Int) : RoundingInterval where
  center := 4 * significand
  below := if significand = 4503599627370496 ∧ -1074 < exponent then 1 else 2
  above := 2
  exponent := exponent - 2
  closed := significand % 2 == 0

/-- The decimal, compared with a number of quarters, as two natural numbers over one denominator. -/
def comparable (interval : RoundingInterval) (decimal : Decimal) (quarters : Nat) : Nat × Nat :=
  let (decimalNumerator, decimalDenominator) := scaledRatio 10 decimal.digits 1 decimal.exponent
  let (binaryNumerator, binaryDenominator) := scaledRatio 2 quarters 1 interval.exponent
  (decimalNumerator * binaryDenominator, binaryNumerator * decimalDenominator)

/-- The decimal rounds to the interval's double. -/
def contains (interval : RoundingInterval) (decimal : Decimal) : Bool :=
  let (lowerPoint, lower) := interval.comparable decimal (interval.center - interval.below)
  let (upperPoint, upper) := interval.comparable decimal (interval.center + interval.above)
  if interval.closed then lower ≤ lowerPoint && upperPoint ≤ upper
  else lower < lowerPoint && upperPoint < upper

/-- The greatest decimal with the exponent that is not above the interval's double. -/
def floorAt (interval : RoundingInterval) (exponent : Int) : Decimal :=
  let (numerator, denominator) := scaledRatio 2 interval.center 1 interval.exponent
  let (scaledNumerator, scaledDenominator) := scaledRatio 10 numerator denominator (-exponent)
  ⟨scaledNumerator / scaledDenominator, exponent⟩

/-- Of two neighbouring decimals around the interval's double, the upper one is nearer. -/
def prefersUpper (interval : RoundingInterval) (tie : Tie) (lower : Decimal) : Bool :=
  let (points, center) := interval.comparable ⟨2 * lower.digits + 1, lower.exponent⟩
    (2 * interval.center)
  points < center || (points == center && (tie == .up || lower.digits % 2 == 1))

/-- The decimal of the interval on the grid with the exponent, the nearer one of two. -/
def onGrid? (interval : RoundingInterval) (tie : Tie) (exponent : Int) : Option Decimal :=
  let lower := interval.floorAt exponent
  let upper : Decimal := ⟨lower.digits + 1, exponent⟩
  if interval.contains lower then
    some (if interval.contains upper && interval.prefersUpper tie lower then upper else lower)
  else if interval.contains upper then some upper
  else none

/-- The position of the first digit: the power of ten that it counts. -/
def leadingExponent (interval : RoundingInterval) : Int :=
  let (numerator, denominator) := scaledRatio 2 interval.center 1 interval.exponent
  let estimate : Int :=
    (Text.numeral numerator).length - ((Text.numeral denominator).length : Int)
  let (scaledNumerator, scaledDenominator) := scaledRatio 10 numerator denominator (-estimate)
  if scaledDenominator ≤ scaledNumerator then estimate else estimate - 1

/-- The shortest decimal of the interval.  Seventeen digits always suffice. -/
def shortest (interval : RoundingInterval) (tie : Tie) : Decimal :=
  let leading := interval.leadingExponent
  let grids := (List.range 17).map fun (places : Nat) => leading - places
  match grids.findSome? (interval.onGrid? tie) with
  | some decimal => decimal.withoutTrailingZeros
  | none => interval.floorAt (leading - 17)

end RoundingInterval

end EntitySearch
