import EntitySearch.Decimal.Digits
import EntitySearch.Json.ReadError

/-!
# Numbers in JSON text

A number without point and power of ten is an integer if 64 bits hold it; every other number is a
double.  The digits of a double are collected up to 64 bits, later ones only count as places.  The
collected number and the power of ten are then multiplied or divided as doubles, so the result may
differ in its last bits from the double nearest to the number as it is written.
-/

namespace EntitySearch.Json

/-- A number of JSON text. -/
inductive Number where
  /-- An integer that 64 bits hold, with or without a sign. -/
  | integer (value : Int)
  /-- Any other number. -/
  | double (value : Double)
  deriving DecidableEq, Repr

namespace Number

/-- The number as something found in place of something else. -/
def found : Number → Found
  | integer value => .integer value
  | double value => .double value

/-- Collects digits behind a number for as long as 64 bits hold the result, and says how many are
left over. -/
def collect (value : Nat) : List Char → Nat × Nat
  | [] => (value, 0)
  | digit :: digits =>
      let next := 10 * value + Text.digitValue digit
      if next < UInt64.size then collect next digits else (value, (digit :: digits).length)

/-- A power of ten as a double. -/
def powerOfTen (exponent : Nat) : Double := (Decimal.mk 1 exponent).toDouble false

/-- A double times a power of ten, unless the result is beyond the greatest double.  Powers beyond
the range of doubles are divided by in steps. -/
def scale? (number : Double) (exponent : Int) : Option Double :=
  if exponent.natAbs ≤ 308 then
    if 0 ≤ exponent then
      let scaled := number.mul (powerOfTen exponent.natAbs)
      if scaled.isInfinite then none else some scaled
    else some (number.div (powerOfTen exponent.natAbs))
  else if number.isZero then some number
  else if 0 ≤ exponent then none
  else scale? (number.div (powerOfTen 308)) (exponent + 308)
termination_by (-exponent).toNat
decreasing_by omega

/-- The double with a collected significand and a power of ten. -/
def ofParts (negative : Bool) (significand : Nat) (exponent : Int) : Except ReadError Number :=
  match scale? (.ofNat significand) exponent with
  | some magnitude => .ok (.double (if negative then magnitude.neg else magnitude))
  | none => .error .malformed

/-- The error for a character that should be a digit: the text is cut short or is not JSON. -/
def noDigit (text : List Char) : ReadError := if text = [] then .endOfText else .malformed

/-- Reads what follows the letter `e`: an optional sign and digits.  A power of ten beyond 32 bits
leaves nothing of a number but zero, or is beyond the greatest double. -/
def readExponent (negative : Bool) (significand : Nat) (exponent : Int) (text : List Char) :
    Except ReadError (Number × List Char) := do
  let (below, digitsOn) :=
    match text with
    | '+' :: rest => (false, rest)
    | '-' :: rest => (true, rest)
    | rest => (false, rest)
  let digits := digitsOn.takeWhile Char.isDigit
  let rest := digitsOn.dropWhile Char.isDigit
  if digits = [] then throw (noDigit rest)
  let power := Text.digitsValue digits
  if Nat.pow 2 31 ≤ power then
    if significand ≠ 0 ∧ !below then throw .malformed
    return (.double (Double.zero negative), rest)
  let total : Int := if below then exponent - power else exponent + power
  return (← ofParts negative significand total, rest)

/-- Reads what follows the digits of a double before its power of ten. -/
def readPower (negative : Bool) (significand : Nat) (exponent : Int) :
    List Char → Except ReadError (Number × List Char)
  | 'e' :: rest | 'E' :: rest => readExponent negative significand exponent rest
  | rest => do return (← ofParts negative significand exponent, rest)

/-- Reads what follows the point. -/
def readFraction (negative : Bool) (significand : Nat) (exponent : Int) (text : List Char) :
    Except ReadError (Number × List Char) := do
  let digits := text.takeWhile Char.isDigit
  let rest := text.dropWhile Char.isDigit
  if digits = [] then throw (noDigit rest)
  let (collected, unread) := collect significand digits
  readPower negative collected (exponent - (digits.length - unread : Nat)) rest

/-- An integer that 64 bits hold, or the double nearest to it; a zero with a minus sign is one. -/
def ofInteger (negative : Bool) (value : Nat) : Number :=
  if !negative then .integer value
  else if value = 0 ∨ Nat.pow 2 63 < value then .double (Double.ofNat value).neg
  else .integer (-value)

/-- Reads a number behind its minus sign, if it has one. -/
def read (negative : Bool) (text : List Char) : Except ReadError (Number × List Char) := do
  let digits := text.takeWhile Char.isDigit
  let rest := text.dropWhile Char.isDigit
  if digits = [] then throw (noDigit rest)
  if digits.head? = some '0' ∧ 1 < digits.length then throw .malformed
  let (collected, unread) := collect 0 digits
  match rest with
  | '.' :: fraction => readFraction negative collected unread fraction
  | rest =>
      if unread = 0 ∧ rest.head? ≠ some 'e' ∧ rest.head? ≠ some 'E' then
        return (ofInteger negative collected, rest)
      else readPower negative collected unread rest

/-- Skips a number behind its minus sign without looking at its size. -/
def skip (text : List Char) : Except ReadError (List Char) := do
  let digits := text.takeWhile Char.isDigit
  let rest := text.dropWhile Char.isDigit
  if digits = [] ∨ (digits.head? = some '0' ∧ 1 < digits.length) then throw .malformed
  let rest ←
    match rest with
    | '.' :: fraction =>
        if (fraction.head?.any Char.isDigit) then pure (fraction.dropWhile Char.isDigit)
        else throw .malformed
    | rest => pure rest
  match rest with
  | 'e' :: power | 'E' :: power =>
      let unsigned :=
        match power with
        | '+' :: unsigned | '-' :: unsigned => unsigned
        | unsigned => unsigned
      if unsigned.head?.any Char.isDigit then return unsigned.dropWhile Char.isDigit
      else throw .malformed
  | rest => return rest

end Number

end EntitySearch.Json
