import EntitySearch.Condition

/-!
# Blankness is kept

Conditions ask of a value whether it is null and whether it is blank.  Neither upper case nor the
correction of temporal values changes the answers: the upper-case mapping neither starts nor ends at
white space, and blank text names no day and no instant.
-/

namespace EntitySearch

namespace Text

/-- Some white space has the code point. -/
def isWhiteSpaceCode (code : Nat) : Bool :=
  whiteSpaceRanges.any fun (first, last) => first ≤ code && code ≤ last

theorem isWhiteSpaceCode_toNat (char : Char) : isWhiteSpaceCode char.toNat = isWhiteSpace char :=
  rfl

theorem isWhiteSpaceCode_eq_false_iff {code : Nat} :
    isWhiteSpaceCode code = false ↔
      ∀ range ∈ whiteSpaceRanges, range.1 ≤ code → range.2 < code := by
  simp [isWhiteSpaceCode]

theorem isWhiteSpaceCode_of_ofNat {code : Nat} (white : isWhiteSpace (Char.ofNat code) = true) :
    isWhiteSpaceCode code = true := by
  -- An invalid code point stands for the null character, which is no white space.
  by_cases valid : code.isValidChar
  · rw [Char.ofNat, dif_pos valid] at white
    exact white
  · rw [Char.ofNat, dif_neg valid] at white
    cases white

theorem isWhiteSpaceCode_of_upperExpansions :
    ∀ entry ∈ upperExpansions, isWhiteSpaceCode entry.1 = false ∧
      (entry.2.map Char.ofNat).all isWhiteSpace = false := by
  decide +kernel

/-- Neither the code points of a stretch nor those they are mapped to reach a range of white
space. -/
theorem apart_of_upperStretches :
    ∀ stretch ∈ upperStretches, ∀ range ∈ whiteSpaceRanges,
      0 < range.1 ∧ (stretch.last < range.1 ∨ range.2 < stretch.first) ∧
        (stretch.last + stretch.shift < range.1 ∨ range.2 < stretch.first + stretch.shift) := by
  decide +kernel

theorem isWhiteSpaceCode_of_contains {stretch : CaseStretch} (known : stretch ∈ upperStretches)
    {code : Nat} (contained : stretch.contains code = true) :
    isWhiteSpaceCode code = false ∧ isWhiteSpaceCode (stretch.apply code) = false := by
  simp only [CaseStretch.contains, Bool.and_eq_true, decide_eq_true_eq] at contained
  obtain ⟨⟨from_first, to_last⟩, -⟩ := contained
  rw [isWhiteSpaceCode_eq_false_iff, isWhiteSpaceCode_eq_false_iff, CaseStretch.apply]
  constructor
  · intro range member from_range
    obtain ⟨-, before, -⟩ := apart_of_upperStretches stretch known range member
    omega
  · intro range member from_range
    obtain ⟨positive, -, after⟩ := apart_of_upperStretches stretch known range member
    omega

/-- A character is white space exactly when its upper case is. -/
theorem all_upperChar (char : Char) : (upperChar char).all isWhiteSpace = isWhiteSpace char := by
  rw [upperChar, upperCodes, ← isWhiteSpaceCode_toNat]
  split
  · rename_i expansion found
    obtain ⟨before, after, whole, -⟩ := List.lookup_eq_some_iff.mp found
    have entry := isWhiteSpaceCode_of_upperExpansions (char.toNat, expansion) (by simp [whole])
    rw [entry.1, entry.2]
  · split
    · rename_i stretch found
      have known := List.mem_of_find?_eq_some found
      have contained := List.find?_some found
      obtain ⟨start, image⟩ := isWhiteSpaceCode_of_contains known contained
      rw [start, List.map_singleton, List.all_cons, List.all_nil, Bool.and_true,
        Bool.eq_false_iff]
      intro white
      rw [isWhiteSpaceCode_of_ofNat white] at image
      cases image
    · simp [isWhiteSpaceCode_toNat]

theorem isBlank_upper (text : String) : isBlank (upper text) = isBlank text := by
  simp [isBlank, upper, List.all_flatMap, all_upperChar]

end Text

namespace Value

@[simp]
theorem isNull_upper (value : Value) : value.upper.isNull = value.isNull := by
  cases value <;> rfl

@[simp]
theorem isBlank_upper (value : Value) : value.upper.isBlank = value.isBlank := by
  cases value with
  | text text => exact Text.isBlank_upper text
  | _ => rfl

end Value

/-- A text that names a day or an instant is not blank. -/
theorem DateReading.isBlank_of_ofText? {text : String} {reading : DateReading}
    (named : ofText? text = some reading) : Text.isBlank text = false := by
  rw [Bool.eq_false_iff]
  intro blank
  rw [ofText?, (Text.isBlank_iff_trim text).mp blank] at named
  cases named

namespace Correction

@[simp]
theorem isNull_correctValue (upper : Bool) (value : Value) :
    (correctValue upper value).isNull = value.isNull := by
  cases value with
  | text text =>
      rw [correctValue]
      split <;> rfl
  | _ => rfl

@[simp]
theorem isBlank_correctValue (upper : Bool) (value : Value) :
    (correctValue upper value).isBlank = value.isBlank := by
  cases value with
  | text text =>
      rw [correctValue]
      split
      · rename_i reading named
        exact (DateReading.isBlank_of_ofText? named).symm
      · rfl
  | _ => rfl

end Correction

end EntitySearch
