/-!
# Substrings

Searching a text for a pattern, cutting it at the last occurrence of a pattern, and replacing every
occurrence from left to right.
-/

namespace EntitySearch.Text

/-- The pattern stands somewhere in the text. -/
def occurs (pattern : List Char) : List Char → Bool
  | [] => pattern.isEmpty
  | char :: rest => pattern.isPrefixOf (char :: rest) || occurs pattern rest

/-- The pattern is a substring of the text. -/
def occursIn (pattern text : String) : Bool := occurs pattern.toList text.toList

theorem occurs_iff (pattern text : List Char) :
    occurs pattern text = true ↔ ∃ before after, text = before ++ pattern ++ after := by
  induction text with
  | nil =>
      simp only [occurs, List.isEmpty_iff]
      constructor
      · rintro rfl
        exact ⟨[], [], rfl⟩
      · rintro ⟨before, after, parts⟩
        simp_all
  | cons char rest ih =>
      simp only [occurs, Bool.or_eq_true, ih, List.isPrefixOf_iff_prefix]
      constructor
      · rintro (⟨after, parts⟩ | ⟨before, after, rfl⟩)
        · exact ⟨[], after, by simp [parts]⟩
        · exact ⟨char :: before, after, by simp⟩
      · rintro ⟨before, after, parts⟩
        cases before with
        | nil => exact Or.inl ⟨after, by simpa using parts.symm⟩
        | cons head before =>
            simp only [List.cons_append, List.cons.injEq] at parts
            exact Or.inr ⟨before, after, by simpa using parts.2⟩

/-- What stands before and behind the last occurrence of the pattern. -/
def splitAtLast? (pattern : List Char) : List Char → Option (List Char × List Char)
  | [] => if pattern.isEmpty then some ([], []) else none
  | char :: rest =>
      match splitAtLast? pattern rest with
      | some (before, behind) => some (char :: before, behind)
      | none =>
          if pattern.isPrefixOf (char :: rest) then
            some ([], (char :: rest).drop pattern.length)
          else none

/-- The text with every occurrence of the pattern replaced, from left to right; the search goes on
behind each occurrence.  An empty pattern is never found. -/
def replaceAll (pattern replacement : List Char) : List Char → List Char
  | [] => []
  | char :: rest =>
      if pattern.isPrefixOf (char :: rest) && !pattern.isEmpty then
        replacement ++ replaceAll pattern replacement (rest.drop (pattern.length - 1))
      else
        char :: replaceAll pattern replacement rest
termination_by text => text.length
decreasing_by
  · simp only [List.length_drop, List.length_cons]
    omega
  · simp only [List.length_cons]
    omega

@[simp]
theorem replaceAll_nil (pattern replacement : List Char) :
    replaceAll pattern replacement [] = [] := by
  simp [replaceAll]

end EntitySearch.Text
