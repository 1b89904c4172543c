/-!
# Double-precision numbers

A double is not a number, an infinity, or a sign with a significand of at most 53 bits times a power
of two.  Finite doubles are kept in their one canonical form, so equal doubles are equal terms.
Every operation rounds its exact result to the nearest double, a tie going to the even significand.
-/

namespace EntitySearch

/-- A significand and an exponent are canonical when the significand fills its 53 bits, so that it
is at least `2 ^ 52`, or the exponent is the least one. -/
def CanonicalBinary (significand : Nat) (exponent : Int) : Prop :=
  significand < 9007199254740992 ∧ -1074 ≤ exponent ∧ exponent ≤ 971 ∧
    (4503599627370496 ≤ significand ∨ exponent = -1074)

instance (significand : Nat) (exponent : Int) : Decidable (CanonicalBinary significand exponent) :=
  inferInstanceAs (Decidable (_ ∧ _ ∧ _ ∧ (_ ∨ _)))

/-- A double-precision number. -/
inductive Double where
  /-- No number. -/
  | nan
  /-- An infinity. -/
  | infinite (negative : Bool)
  /-- The number `significand * 2 ^ exponent`, or its opposite. -/
  | finite (negative : Bool) (significand : Nat) (exponent : Int)
      (canonical : CanonicalBinary significand exponent)
  deriving DecidableEq, Repr

/-- A quotient rounded to the nearest natural number, a tie going to the even one. -/
def roundedQuotient (numerator denominator : Nat) : Nat :=
  let quotient := numerator / denominator
  let double := 2 * (numerator % denominator)
  if double < denominator ∨ (double = denominator ∧ quotient % 2 = 0) then quotient
  else quotient + 1

/-- The numerator and the denominator of `numerator / denominator * base ^ exponent`. -/
def scaledRatio (base numerator denominator : Nat) (exponent : Int) : Nat × Nat :=
  if 0 ≤ exponent then (numerator * Nat.pow base exponent.toNat, denominator)
  else (numerator, denominator * Nat.pow base (-exponent).toNat)

namespace Double

/-- A zero of the given sign. -/
def zero (negative : Bool) : Double := .finite negative 0 (-1074) (by decide)

/-- The significand at an exponent of the double nearest to a ratio. -/
def significandAt (numerator denominator : Nat) (exponent : Int) : Nat :=
  let (scaledNumerator, scaledDenominator) := scaledRatio 2 numerator denominator (-exponent)
  roundedQuotient scaledNumerator scaledDenominator

/-- The double at the first exponent of the list at which the ratio's significand is canonical. -/
def atFirstCanonical (negative : Bool) (numerator denominator : Nat) : List Int → Double
  | [] => .infinite negative
  | exponent :: exponents =>
      if canonical : CanonicalBinary (significandAt numerator denominator exponent) exponent then
        .finite negative (significandAt numerator denominator exponent) exponent canonical
      else
        atFirstCanonical negative numerator denominator exponents

/-- The double nearest to a ratio with a positive denominator.  The significand of a positive ratio
has 53 or 54 bits before rounding at the first exponent tried, unless that is the least exponent. -/
def ofRatio (negative : Bool) (numerator denominator : Nat) : Double :=
  if numerator = 0 then zero negative
  else
    let estimate : Int := numerator.log2 - denominator.log2 - 53
    let first := max (-1074) estimate
    atFirstCanonical negative numerator denominator [first, first + 1, first + 2]

/-- The double nearest to a natural number. -/
def ofNat (number : Nat) : Double := ofRatio false number 1

/-- The double nearest to an integer. -/
def ofInt (number : Int) : Double := ofRatio (number < 0) number.natAbs 1

/-- The opposite number. -/
def neg : Double → Double
  | nan => nan
  | infinite negative => infinite !negative
  | finite negative significand exponent canonical =>
      finite (!negative) significand exponent canonical

/-- Either zero. -/
def isZero : Double → Bool
  | finite _ significand _ _ => significand == 0
  | _ => false

/-- The magnitude is infinite. -/
def isInfinite : Double → Bool
  | infinite _ => true
  | _ => false

/-- The product, rounded. -/
def mul : Double → Double → Double
  | nan, _ => nan
  | _, nan => nan
  | infinite left, infinite right => infinite (left != right)
  | infinite left, finite right significand _ _ =>
      if significand = 0 then nan else infinite (left != right)
  | finite left significand _ _, infinite right =>
      if significand = 0 then nan else infinite (left != right)
  | finite left leftSignificand leftExponent _, finite right rightSignificand rightExponent _ =>
      let (numerator, denominator) :=
        scaledRatio 2 (leftSignificand * rightSignificand) 1 (leftExponent + rightExponent)
      ofRatio (left != right) numerator denominator

/-- The quotient, rounded. -/
def div : Double → Double → Double
  | nan, _ => nan
  | _, nan => nan
  | infinite _, infinite _ => nan
  | infinite left, finite right _ _ _ => infinite (left != right)
  | finite left _ _ _, infinite right => zero (left != right)
  | finite left leftSignificand leftExponent _, finite right rightSignificand rightExponent _ =>
      if rightSignificand = 0 then
        if leftSignificand = 0 then nan else infinite (left != right)
      else
        let (numerator, denominator) :=
          scaledRatio 2 leftSignificand rightSignificand (leftExponent - rightExponent)
        ofRatio (left != right) numerator denominator

end Double

end EntitySearch
