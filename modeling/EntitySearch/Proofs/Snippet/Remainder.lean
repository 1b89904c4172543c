import EntitySearch.Proofs.Snippet.Splicing

/-!
# What splicing leaves

Splicing takes the markers of literal parameters out of a text, so a text that is not blank may
become blank.  It does not as long as no spliced text is blank, or as long as a word stands in the
text that no marker reaches.
-/

namespace EntitySearch

namespace Text

theorem all_isWhiteSpace_replaceAll {pattern replacement text : List Char}
    (spliced : replacement.all isWhiteSpace = false) (present : text.all isWhiteSpace = false) :
    (replaceAll pattern replacement text).all isWhiteSpace = false := by
  fun_induction replaceAll pattern replacement text with
  | case1 => exact present
  | case2 char rest found induction => rw [List.all_append, spliced, Bool.false_and]
  | case3 char rest missing induction =>
      rw [List.all_cons, Bool.and_eq_false_iff] at present ⊢
      exact present.imp_right induction

/-! ## Words that markers do not reach -/

/-- No name between two colons reaches into the word: there is no colon in it, and it stands at an
end of the text or has a character that no name has. -/
def OutOfReach (before word after : List Char) : Prop :=
  ':' ∉ word ∧
    (before = [] ∨ after = [] ∨ ∃ char ∈ word, SnippetPiece.isNameChar char = false)

variable {before word after name : List Char}

theorem replaceAll_word_append (replacement : List Char) (colonFree : ':' ∉ word) :
    replaceAll (':' :: name ++ [':']) replacement (word ++ after) =
      word ++ replaceAll (':' :: name ++ [':']) replacement after := by
  apply replaceAll_append_of_free
  intro left right whole
  rw [List.append_assoc, List.append_eq_append_iff] at whole
  rcases whole with ⟨rest, rfl, -⟩ | ⟨rest, rfl, opening⟩
  · simp
  · cases rest with
    | nil => simp
    | cons first rest =>
        obtain ⟨rfl, -⟩ : ':' = first ∧ _ := by simpa using opening
        simp at colonFree

/-- Name characters and a colon do not go on through a word out of reach. -/
theorem ne_of_colonFree {within rest : List Char}
    (named : ∀ char ∈ within, SnippetPiece.isNameChar char = true) (colonFree : ':' ∉ word)
    (apart : after = [] ∨ ∃ char ∈ word, SnippetPiece.isNameChar char = false) :
    within ++ ':' :: rest ≠ word ++ after := by
  intro whole
  have escapes (follows : after ≠ []) : ∃ char ∈ word, SnippetPiece.isNameChar char = false :=
    apart.resolve_left follows
  rcases List.append_eq_append_iff.mp whole with ⟨tail, rfl, closing⟩ | ⟨tail, rfl, rfl⟩
  · cases tail with
    | nil =>
        obtain rfl : ':' :: rest = after := by simpa using closing
        obtain ⟨char, member, other⟩ := escapes (by simp)
        simp [named char (by simpa using member)] at other
    | cons first tail =>
        obtain ⟨rfl, -⟩ : ':' = first ∧ _ := by simpa using closing
        simp at colonFree
  · obtain ⟨char, member, other⟩ := escapes (by simp)
    simp [named char (List.mem_append_left _ member)] at other

/-- A marker that begins before the word ends before it. -/
theorem prefix_of_prefix_append (named : ∀ char ∈ name, SnippetPiece.isNameChar char = true)
    (colonFree : ':' ∉ word)
    (apart : after = [] ∨ ∃ char ∈ word, SnippetPiece.isNameChar char = false) {first : Char}
    (marked : ':' :: name ++ [':'] <+: first :: before ++ (word ++ after)) :
    ':' :: name ++ [':'] <+: first :: before := by
  obtain ⟨rest, whole⟩ := marked
  obtain ⟨rfl, behind⟩ : ':' = first ∧ name ++ ':' :: rest = before ++ (word ++ after) := by
    simpa using whole
  rcases List.append_eq_append_iff.mp behind with ⟨within, rfl, closing⟩ | ⟨within, rfl, reached⟩
  · cases within with
    | nil =>
        have reached : [] ++ ':' :: rest = word ++ after := closing
        exact absurd reached (ne_of_colonFree (List.forall_mem_nil _) colonFree apart)
    | cons colon within =>
        obtain ⟨rfl, -⟩ : ':' = colon ∧ _ := by simpa using closing
        exact ⟨within, by simp⟩
  · have inside : ∀ char ∈ within, SnippetPiece.isNameChar char = true := fun char member =>
      named char (List.mem_append_right _ member)
    exact absurd reached.symm (ne_of_colonFree inside colonFree apart)

/-- Replacing a marker leaves the word in its place between what becomes of the texts around it. -/
theorem exists_replaceAll_word_eq (replacement : List Char)
    (named : ∀ char ∈ name, SnippetPiece.isNameChar char = true) (colonFree : ':' ∉ word)
    (apart : after = [] ∨ ∃ char ∈ word, SnippetPiece.isNameChar char = false)
    (before : List Char) :
    ∃ left, replaceAll (':' :: name ++ [':']) replacement (before ++ (word ++ after)) =
      left ++ (word ++ replaceAll (':' :: name ++ [':']) replacement after) := by
  match before with
  | [] => exact ⟨[], replaceAll_word_append replacement colonFree⟩
  | first :: before =>
      by_cases marked : ':' :: name ++ [':'] <+: first :: before ++ (word ++ after)
      · obtain ⟨rest, split⟩ := prefix_of_prefix_append named colonFree apart marked
        obtain ⟨left, replaced⟩ :=
          exists_replaceAll_word_eq replacement named colonFree apart rest
        refine ⟨replacement ++ left, ?_⟩
        rw [← split, List.append_assoc, replaceAll_pattern_append _ _ (by simp), replaced,
          List.append_assoc]
      · obtain ⟨left, replaced⟩ :=
          exists_replaceAll_word_eq replacement named colonFree apart before
        refine ⟨first :: left, ?_⟩
        exact (replaceAll_cons_of_not_starts replacement marked).trans (congrArg _ replaced)
termination_by before.length
decreasing_by
  · have lengths := congrArg List.length split
    simp only [List.length_append, List.length_cons] at lengths ⊢
    omega
  · exact Nat.lt_succ_self _

theorem OutOfReach.exists_replaceAll_eq (outOfReach : OutOfReach before word after)
    (replacement : List Char) (named : ∀ char ∈ name, SnippetPiece.isNameChar char = true) :
    ∃ left right, replaceAll (':' :: name ++ [':']) replacement (before ++ (word ++ after)) =
      left ++ (word ++ right) ∧ OutOfReach left word right := by
  obtain ⟨colonFree, atStart | apart⟩ := outOfReach
  · refine ⟨[], replaceAll (':' :: name ++ [':']) replacement after, ?_, colonFree, Or.inl rfl⟩
    rw [atStart]
    exact replaceAll_word_append replacement colonFree
  · obtain ⟨left, replaced⟩ :=
      exists_replaceAll_word_eq replacement named colonFree apart before
    refine ⟨left, _, replaced, colonFree, Or.inr (apart.imp_left ?_)⟩
    rintro rfl
    exact replaceAll_nil _ _

end Text

/-- A word out of the reach of all markers stands in the text until its names are spliced. -/
theorem exists_spliceAll_eq {before word after : List Char}
    (outOfReach : Text.OutOfReach before word after) (bindings : Bindings) {names : List String}
    (named : ∀ name ∈ names, SnippetPiece.isName name.toList = true) :
    ∃ left right, spliceAll bindings names (before ++ (word ++ after)) =
      left ++ (word ++ right) := by
  induction names generalizing before after with
  | nil => exact ⟨before, after, rfl⟩
  | cons name names induction =>
      rw [List.forall_mem_cons] at named
      obtain ⟨left, right, replaced, stillOut⟩ :=
        outOfReach.exists_replaceAll_eq (bindings.literalText name) fun char member =>
          SnippetPiece.isNameChar_of_isName named.1 member
      obtain ⟨left, right, spliced⟩ := induction stillOut named.2
      refine ⟨left, right, ?_⟩
      rw [spliceAll, List.foldl_cons, ← spliceAll, ← spliced, ← replaced]
      simp [Marker.text]

theorem all_isWhiteSpace_spliceAll {bindings : Bindings} {names : List String} {text : List Char}
    (filled : ∀ name ∈ names, (bindings.literalText name).all Text.isWhiteSpace = false)
    (present : text.all Text.isWhiteSpace = false) :
    (spliceAll bindings names text).all Text.isWhiteSpace = false := by
  induction names generalizing text with
  | nil => exact present
  | cons name names induction =>
      rw [List.forall_mem_cons] at filled
      exact induction filled.2 (Text.all_isWhiteSpace_replaceAll filled.1 present)

namespace SnippetPiece

/-- The piece leaves white space only. -/
inductive Vanishes (bindings : Bindings) : SnippetPiece → Prop
  | plain {char : Char} (white : Text.isWhiteSpace char = true) : Vanishes bindings (.plain char)
  | literal {name : String} (blank : (bindings.literalText name).all Text.isWhiteSpace = true) :
      Vanishes bindings (.marker ⟨name, .literal⟩)

theorem all_isWhiteSpace_template (piece : SnippetPiece) :
    piece.template.all Text.isWhiteSpace = piece.source.all Text.isWhiteSpace := by
  have colon : Text.isWhiteSpace ':' = false := by decide
  have placeholder : Text.isWhiteSpace '?' = false := by decide
  rcases piece with char | ⟨name, _ | _⟩ <;> simp [template, source, colon, placeholder]

theorem all_isWhiteSpace_substituted_iff {bindings : Bindings} {piece : SnippetPiece} :
    (piece.substituted bindings).all Text.isWhiteSpace = true ↔ piece.Vanishes bindings := by
  constructor
  · intro white
    rcases piece with char | ⟨name, _ | _⟩
    · exact .plain (by simpa [substituted] using white)
    · have placeholder : Text.isWhiteSpace '?' = false := by decide
      simp [substituted, placeholder] at white
    · exact .literal white
  · rintro (white | blank)
    · simpa [substituted] using white
    · exact blank

end SnippetPiece

namespace Snippet

/-- The template of a text is blank exactly when the text is. -/
theorem isBlank_ofText (text : String) : (ofText text).isBlank = Text.isBlank text := by
  have whole : (ofText text).pieces.flatMap SnippetPiece.source = text.toList :=
    source_scan false text.toList
  rw [isBlank, Text.isBlank, Text.isBlank, template, ← whole]
  simp [List.all_flatMap, SnippetPiece.all_isWhiteSpace_template]

/-- What is left of a text that is not blank. -/
structure Remains (text : String) (bindings : Bindings) : Prop where
  present : Text.isBlank text = false
  /-- It takes a blank value to make the text blank. -/
  filled : (∀ name ∈ (ofText text).literalNames,
      (bindings.literalText name).all Text.isWhiteSpace = false) →
    Text.isBlank ((ofText text).resolve bindings).sql = false
  /-- A word that no marker reaches is left, whatever the values are. -/
  kept : ∀ before word after, (ofText text).template.toList = before ++ (word ++ after) →
    Text.OutOfReach before word after → word.all Text.isWhiteSpace = false →
    Text.isBlank ((ofText text).resolve bindings).sql = false
  /-- Where no spliced text meets a marker, the text becomes blank just if it is made of white space
  and blank values. -/
  blank_iff : (ofText text).MarkersSeparate →
    (∀ name ∈ (ofText text).literalNames, ':' ∉ bindings.literalText name) →
    (Text.isBlank ((ofText text).resolve bindings).sql = true ↔
      ∀ piece ∈ (ofText text).pieces, piece.Vanishes bindings)

theorem remains (text : String) (bindings : Bindings) (present : Text.isBlank text = false) :
    Remains text bindings where
  present := present
  filled filled := by
    rw [Text.isBlank, toList_sql_resolve]
    refine all_isWhiteSpace_spliceAll filled ?_
    rw [← Text.isBlank, ← isBlank, isBlank_ofText, present]
  kept before word after split outOfReach fixed := by
    have named : ∀ name ∈ (ofText text).literalNames, SnippetPiece.isName name.toList = true :=
      fun name literal => isName_of_mem_pieces (mem_literalNames.mp literal)
    obtain ⟨left, right, spliced⟩ := exists_spliceAll_eq outOfReach bindings named
    rw [Text.isBlank, toList_sql_resolve, split, spliced, List.all_append, List.all_append, fixed,
      Bool.false_and, Bool.and_false]
  blank_iff separate colonFree := by
    have apart := splicesApart_of_separate separate colonFree (List.Perm.refl _)
    rw [Text.isBlank, toList_sql_resolve, spliceAll_template (nodup_literalNames _) apart,
      splicedText_eq_substitution bindings fun _ => id, substitution, List.all_flatMap,
      List.all_eq_true]
    simp only [SnippetPiece.all_isWhiteSpace_substituted_iff]

end Snippet

end EntitySearch
