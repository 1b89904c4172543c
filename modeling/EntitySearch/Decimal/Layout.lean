import EntitySearch.Decimal.Digits

/-!
# Writing doubles

A double is written with the shortest digits that read back as it.  A layout says how the digits
are set: which positions of the decimal point are written out, whether whole numbers keep a
fraction, how a tie is settled and what stands for the numbers without digits.
-/

namespace EntitySearch

/-- The choices that a written form of doubles makes. -/
structure DoubleLayout where
  /-- How a tie between two shortest decimals is settled. -/
  tie : Tie
  /-- The least and the greatest position of the decimal point that are written without an
  exponent; every position when absent. -/
  positional : Option (Int × Int)
  /-- What follows a whole number written without an exponent. -/
  wholeFraction : List Char
  /-- What stands for no number. -/
  nan : List Char
  /-- What stands for an infinity of the given sign. -/
  infinite : Bool → List Char

namespace DoubleLayout

/-- Numbers are written without an exponent and whole ones without a fraction. -/
def plain : DoubleLayout where
  tie := .up
  positional := none
  wholeFraction := []
  nan := "NaN".toList
  infinite negative := if negative then "-inf".toList else "inf".toList

/-- Numbers from `1e-5` up to `1e16` are written without an exponent, and every number shows that it
is not an integer; JSON has no spelling for the others but `null`. -/
def json : DoubleLayout where
  tie := .even
  positional := some (-4, 16)
  wholeFraction := ".0".toList
  nan := "null".toList
  infinite _ := "null".toList

/-- The digits with a decimal point behind the first `point` of them. -/
def pointed (layout : DoubleLayout) (digits : List Char) (point : Int) : List Char :=
  if point ≤ 0 then
    '0' :: '.' :: (List.replicate (-point).toNat '0' ++ digits)
  else if point < digits.length then
    digits.take point.toNat ++ '.' :: digits.drop point.toNat
  else
    digits ++ List.replicate (point.toNat - digits.length) '0' ++ layout.wholeFraction

/-- The digits as one digit, a fraction and a power of ten. -/
def scientific (digits : List Char) (point : Int) : List Char :=
  let fraction := if digits.length = 1 then [] else '.' :: digits.drop 1
  digits.take 1 ++ fraction ++ 'e' :: Text.signedNumeral (point - 1)

/-- A decimal, written by the layout. -/
def decimalText (layout : DoubleLayout) (decimal : Decimal) : List Char :=
  let digits := Text.numeral decimal.digits
  let point := digits.length + decimal.exponent
  match layout.positional with
  | none => layout.pointed digits point
  | some (least, greatest) =>
      if least ≤ point ∧ point ≤ greatest then layout.pointed digits point
      else scientific digits point

/-- A double, written by the layout. -/
def text (layout : DoubleLayout) : Double → List Char
  | .nan => layout.nan
  | .infinite negative => layout.infinite negative
  | .finite negative significand exponent _ =>
      let magnitude :=
        if significand = 0 then '0' :: layout.wholeFraction
        else
          layout.decimalText ((RoundingInterval.ofDouble significand exponent).shortest layout.tie)
      if negative then '-' :: magnitude else magnitude

end DoubleLayout

end EntitySearch
