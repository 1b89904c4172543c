/-!
# White space

A character is white space when it has the Unicode property `White_Space`, and text is blank when
all of its characters are.  Trimming removes the white space at both ends, so it leaves nothing
exactly of blank text.
-/

namespace EntitySearch.Text

/-- The code points with the property `White_Space`, as closed ranges in increasing order. -/
def whiteSpaceRanges : List (Nat × Nat) :=
  [(0x9, 0xD), (0x20, 0x20), (0x85, 0x85), (0xA0, 0xA0), (0x1680, 0x1680), (0x2000, 0x200A),
    (0x2028, 0x2029), (0x202F, 0x202F), (0x205F, 0x205F), (0x3000, 0x3000)]

/-- Some range of the list holds the character's code point. -/
def inRanges (ranges : List (Nat × Nat)) (char : Char) : Bool :=
  ranges.any fun (first, last) => first ≤ char.toNat && char.toNat ≤ last

/-- The character has the property `White_Space`. -/
def isWhiteSpace (char : Char) : Bool := inRanges whiteSpaceRanges char

/-- The text without the white space it starts with. -/
def trimStart (text : List Char) : List Char := text.dropWhile isWhiteSpace

/-- The text without the white space it ends with. -/
def trimEnd (text : List Char) : List Char := (trimStart text.reverse).reverse

/-- The text without the white space at its ends. -/
def trim (text : List Char) : List Char := trimEnd (trimStart text)

/-- The text is empty or holds white space only. -/
def isBlank (text : String) : Bool := text.toList.all isWhiteSpace

@[simp]
theorem isBlank_empty : isBlank "" = true := rfl

theorem isBlank_append (left right : String) :
    isBlank (left ++ right) = (isBlank left && isBlank right) := by
  simp [isBlank]

theorem trimStart_eq_nil_iff (text : List Char) :
    trimStart text = [] ↔ ∀ char ∈ text, isWhiteSpace char = true := by
  induction text with
  | nil => simp [trimStart]
  | cons char rest ih =>
      rw [trimStart] at ih ⊢
      cases white : isWhiteSpace char <;> simp [white, ih]

theorem trim_eq_nil_iff (text : List Char) :
    trim text = [] ↔ ∀ char ∈ text, isWhiteSpace char = true := by
  constructor
  · intro empty
    have inner : ∀ char ∈ trimStart text, isWhiteSpace char = true := by
      have reversed : trimStart (trimStart text).reverse = [] := by
        simpa [trim, trimEnd] using empty
      intro char member
      exact (trimStart_eq_nil_iff _).mp reversed char (List.mem_reverse.mpr member)
    have none_left : trimStart text = [] := by
      cases started : trimStart text with
      | nil => rfl
      | cons head tail =>
          have white := inner head (by simp [started])
          have notWhite := List.head?_dropWhile_not isWhiteSpace text
          rw [trimStart] at started
          simp [started, white] at notWhite
    exact (trimStart_eq_nil_iff text).mp none_left
  · intro white
    rw [trim, (trimStart_eq_nil_iff text).mpr white]
    rfl

/-- Blank text is the text of which trimming leaves nothing. -/
theorem isBlank_iff_trim (text : String) : isBlank text = true ↔ trim text.toList = [] := by
  rw [trim_eq_nil_iff]
  simp [isBlank]

end EntitySearch.Text
