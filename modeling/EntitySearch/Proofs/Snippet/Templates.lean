import EntitySearch.Proofs.Snippet.Grammar

/-!
# Templates are read as they were made

A template is a text with colons of its own, those of the literal markers and the plain ones.  Read
as a snippet it has the same literal markers, and its question marks are plain: a question mark
neither goes on a name nor closes one, and no marker stood behind a colon, so none of its
neighbours is judged otherwise than before.
-/

namespace EntitySearch

namespace Marker

/-- The marker keeps its place in the template. -/
def isLiteral (marker : Marker) : Bool := marker.kind == .literal

end Marker

namespace SnippetPiece

/-- What a piece is in the template: a bound marker is a plain question mark there. -/
def inTemplate : SnippetPiece → SnippetPiece
  | .marker ⟨_, .bound⟩ => .plain '?'
  | piece => piece

theorem source_inTemplate (piece : SnippetPiece) : piece.inTemplate.source = piece.template := by
  rcases piece with char | ⟨name, _ | _⟩ <;> rfl

theorem flatMap_source_inTemplate (pieces : List SnippetPiece) :
    (pieces.map inTemplate).flatMap source = pieces.flatMap template := by
  rw [List.flatMap_map, funext source_inTemplate]

theorem template_inTemplate (piece : SnippetPiece) :
    piece.inTemplate.template = piece.template := by
  rcases piece with char | ⟨name, _ | _⟩ <;> rfl

theorem flatMap_template_inTemplate (pieces : List SnippetPiece) :
    (pieces.map inTemplate).flatMap template = pieces.flatMap template := by
  rw [List.flatMap_map, funext template_inTemplate]

theorem marker?_inTemplate (piece : SnippetPiece) :
    piece.inTemplate.marker? = piece.marker?.filter Marker.isLiteral := by
  rcases piece with char | ⟨name, _ | _⟩ <;> rfl

/-! ## The neighbours of a piece -/

/-- The template begins as the text does, unless it begins with a placeholder. -/
theorem head?_flatMap_template (pieces : List SnippetPiece) :
    (pieces.flatMap template).head? = (pieces.flatMap source).head? ∨
      (pieces.flatMap template).head? = some '?' := by
  rcases pieces with _ | ⟨char | ⟨name, _ | _⟩, pieces⟩
  · exact .inl rfl
  · exact .inl rfl
  · exact .inr rfl
  · exact .inl rfl

variable {before kept behind : List Char} {piece : SnippetPiece} {pieces : List SnippetPiece}

/-- The template ends in a colon where the text does. -/
theorem getLast?_append_template (kept : List Char) (fits : Fits before piece behind) :
    ((kept ++ piece.template).getLast? == some ':') =
      ((before ++ piece.source).getLast? == some ':') := by
  cases fits with
  | plain => simp [template, source]
  | @marker name kind _ named =>
      rw [getLast?_append_source_marker before named]
      cases kind with
      | bound => simp [template]
      | literal =>
          have written : template (.marker ⟨name, .literal⟩) = source (.marker ⟨name, .literal⟩) :=
            rfl
          rw [written, getLast?_append_source_marker kept named]

/-- A piece that fits between two texts fits between their templates. -/
theorem fits_inTemplate (fits : Fits before piece (pieces.flatMap source))
    (same : (kept.getLast? == some ':') = (before.getLast? == some ':')) :
    Fits kept piece.inTemplate (pieces.flatMap template) := by
  have apart_iff : kept.getLast? ≠ some ':' ↔ before.getLast? ≠ some ':' := by
    rw [← beq_eq_false_iff_ne, same, beq_eq_false_iff_ne]
  have begins := head?_flatMap_template pieces
  cases fits with
  | @plain char _ unmarked =>
      refine .plain fun colon apart next present => ?_
      rcases begins with as_written | placeholder
      · exact unmarked colon (apart_iff.mp apart) next (as_written ▸ present)
      · obtain rfl : '?' = next := by simpa [placeholder] using present
        decide
  | @marker name kind _ named whole apart literal_iff =>
      cases kind with
      | bound => exact .plain fun colon => absurd colon (by decide)
      | literal =>
          refine .marker named (by simp [behindName, isNameChar_colon]) (apart_iff.mpr apart)
            (iff_of_true rfl ⟨rfl, ?_⟩)
          have single : (pieces.flatMap source).head? ≠ some ':' := (literal_iff.mp rfl).2
          rw [behindName, List.tail_cons]
          rcases begins with as_written | placeholder
          · rwa [as_written]
          · rw [placeholder]
            decide

theorem fitTogether_inTemplate (fit : FitTogether before pieces)
    (same : (kept.getLast? == some ':') = (before.getLast? == some ':')) :
    FitTogether kept (pieces.map inTemplate) := by
  induction pieces generalizing before kept with
  | nil => simp [FitTogether]
  | cons piece pieces induction =>
      obtain ⟨first, others⟩ := fitTogether_cons.mp fit
      rw [List.map_cons, fitTogether_cons, flatMap_source_inTemplate, source_inTemplate]
      exact ⟨fits_inTemplate first same, induction others (getLast?_append_template kept first)⟩

end SnippetPiece

namespace Snippet

/-- The cut of a template is that of the text with its bound markers replaced. -/
theorem isCut_template {text : List Char} {pieces : List SnippetPiece} (cut : IsCut text pieces) :
    IsCut (pieces.flatMap SnippetPiece.template) (pieces.map SnippetPiece.inTemplate) where
  source := SnippetPiece.flatMap_source_inTemplate pieces
  fits := SnippetPiece.fitTogether_inTemplate cut.fits rfl

/-! ## The literal parameters -/

theorem filter_addMarker (markers : List Marker) (marker : Marker) :
    (addMarker markers marker).filter Marker.isLiteral =
      if marker.isLiteral then addMarker (markers.filter Marker.isLiteral) marker
      else markers.filter Marker.isLiteral := by
  obtain ⟨name, _ | _⟩ := marker
  · simp [addMarker, Marker.isLiteral]
  · by_cases known : ⟨name, .literal⟩ ∈ markers <;> simp [addMarker, Marker.isLiteral, known]

/-- Leaving out the bound markers first leaves the literal ones in their order. -/
theorem foldl_addMarker_filter (raw markers : List Marker) :
    (raw.filter Marker.isLiteral).foldl addMarker (markers.filter Marker.isLiteral) =
      (raw.foldl addMarker markers).filter Marker.isLiteral := by
  induction raw generalizing markers with
  | nil => rfl
  | cons marker raw induction =>
      rw [List.foldl_cons, ← induction, filter_addMarker, List.filter_cons]
      split <;> rfl

theorem markers_inTemplate (pieces : List SnippetPiece) :
    markers ⟨pieces.map SnippetPiece.inTemplate⟩ = (markers ⟨pieces⟩).filter Marker.isLiteral := by
  have kept : SnippetPiece.marker? ∘ SnippetPiece.inTemplate =
      fun piece => piece.marker?.filter Marker.isLiteral :=
    funext SnippetPiece.marker?_inTemplate
  rw [markers, markers, List.filterMap_map, kept, ← List.filter_filterMap]
  exact foldl_addMarker_filter _ []

/-- Reading a template changes nothing in it: what was cut out of the text stands there piece by
piece, bound markers as plain question marks, and its parameters are the literal ones of the
text. -/
theorem ofText_template_stable (text : String) :
    (ofText (ofText text).template).pieces =
        (ofText text).pieces.map SnippetPiece.inTemplate ∧
      (ofText (ofText text).template).template = (ofText text).template ∧
      (ofText (ofText text).template).markers = (ofText text).markers.filter Marker.isLiteral := by
  have cut : IsCut text.toList (ofText text).pieces := isCut_iff.mpr rfl
  have again : ofText (ofText text).template =
      ⟨(ofText text).pieces.map SnippetPiece.inTemplate⟩ := by
    rw [ofText, template, String.toList_ofList, ← isCut_iff.mp (isCut_template cut)]
  refine ⟨congrArg pieces again, ?_, ?_⟩
  · rw [again, template, SnippetPiece.flatMap_template_inTemplate]
    rfl
  · rw [again]
    exact markers_inTemplate _

end Snippet

end EntitySearch
