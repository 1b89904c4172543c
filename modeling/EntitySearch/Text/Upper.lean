import EntitySearch.Text.UpperTable

/-!
# Upper case

Upper-casing maps every character on its own by the full, locale-independent mapping, so one
character may become several: `ß` becomes `SS`.
-/

namespace EntitySearch.Text

namespace CaseStretch

/-- The stretch holds the code point. -/
def contains (stretch : CaseStretch) (code : Nat) : Bool :=
  stretch.first ≤ code && code ≤ stretch.last && (code - stretch.first) % stretch.step == 0

/-- The code point that a code point of the stretch is mapped to. -/
def apply (stretch : CaseStretch) (code : Nat) : Nat := (code + stretch.shift).toNat

end CaseStretch

/-- The code points that a code point upper-cases to. -/
def upperCodes (code : Nat) : List Nat :=
  match upperExpansions.lookup code with
  | some expansion => expansion
  | none =>
      match upperStretches.find? (·.contains code) with
      | some stretch => [stretch.apply code]
      | none => [code]

/-- The characters that a character upper-cases to. -/
def upperChar (char : Char) : List Char := (upperCodes char.toNat).map Char.ofNat

/-- The text in upper case. -/
def upper (text : String) : String := String.ofList (text.toList.flatMap upperChar)

@[simp]
theorem upper_empty : upper "" = "" := rfl

theorem upper_append (left right : String) : upper (left ++ right) = upper left ++ upper right := by
  simp [upper]

/-- An ASCII letter folded to lower case; every other character stays as it is. -/
def lowerAscii (text : String) : List Char := text.toList.map Char.toLower

/-- The texts differ at most in the case of ASCII letters. -/
def equalsIgnoringCase (left right : String) : Bool := lowerAscii left == lowerAscii right

end EntitySearch.Text
