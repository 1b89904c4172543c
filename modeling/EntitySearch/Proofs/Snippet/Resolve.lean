import EntitySearch.Snippet

/-!
# What resolving a snippet yields

The markers of a snippet are gone through in the order of its text.  Along the way the bound ones
leave their values, and the literal names splice their texts one name after another.  The two do
not meet, so a resolved snippet is described by each on its own.
-/

namespace EntitySearch

namespace Bindings

/-- The value of a name, null when nothing is bound to it. -/
def value (bindings : Bindings) (name : String) : Value := (bindings.get? name).getD .null

/-- The text that a literal parameter leaves in the statement. -/
def literalText (bindings : Bindings) (name : String) : List Char :=
  (bindings.value name).literal.toList

end Bindings

namespace Marker

/-- The value that a marker adds to the values of its snippet. -/
def boundValue? (bindings : Bindings) : Marker → Option Value
  | ⟨name, .bound⟩ => some (bindings.value name)
  | ⟨_, .literal⟩ => none

/-- The name that a marker splices. -/
def literalName? : Marker → Option String
  | ⟨_, .bound⟩ => none
  | ⟨name, .literal⟩ => some name

@[simp]
theorem boundValue?_bound (bindings : Bindings) (name : String) :
    boundValue? bindings ⟨name, .bound⟩ = some (bindings.value name) := rfl

@[simp]
theorem boundValue?_literal (bindings : Bindings) (name : String) :
    boundValue? bindings ⟨name, .literal⟩ = none := rfl

@[simp]
theorem literalName?_bound (name : String) : literalName? ⟨name, .bound⟩ = none := rfl

@[simp]
theorem literalName?_literal (name : String) : literalName? ⟨name, .literal⟩ = some name := rfl

theorem literalName?_eq_some_iff {marker : Marker} {name : String} :
    marker.literalName? = some name ↔ marker = ⟨name, .literal⟩ := by
  obtain ⟨other, kind⟩ := marker
  cases kind <;> simp

end Marker

/-- Replaces the marker text of every name by the name's text, one name after another. -/
def spliceAll (bindings : Bindings) (names : List String) (text : List Char) : List Char :=
  names.foldl (fun text name =>
    Text.replaceAll (Marker.text ⟨name, .literal⟩).toList (bindings.literalText name) text) text

namespace Snippet

/-- The text that the snippet was read from. -/
def sourceText (snippet : Snippet) : String :=
  String.ofList (snippet.pieces.flatMap SnippetPiece.source)

/-- The parameters of a snippet as often as they stand in its text. -/
def occurrences (snippet : Snippet) : List Marker := snippet.pieces.filterMap SnippetPiece.marker?

/-- The values of the bound parameters, in the order of the text. -/
def boundValues (snippet : Snippet) (bindings : Bindings) : List Value :=
  snippet.occurrences.filterMap (Marker.boundValue? bindings)

/-- The names of the literal parameters, in the order in which they are met first. -/
def literalNames (snippet : Snippet) : List String :=
  snippet.markers.filterMap Marker.literalName?

theorem filterMap_addMarker {α : Type} (select : Marker → Option α)
    (bound_only : ∀ name, select ⟨name, .literal⟩ = none) (markers : List Marker)
    (marker : Marker) :
    (addMarker markers marker).filterMap select = (markers ++ [marker]).filterMap select := by
  rw [addMarker]
  split
  · rename_i known
    obtain ⟨name, kind⟩ := marker
    obtain ⟨rfl, -⟩ := known
    simp [bound_only]
  · rfl

/-- Leaving out repeated literal markers leaves what is read of bound ones in its place. -/
theorem filterMap_markers {α : Type} (select : Marker → Option α)
    (bound_only : ∀ name, select ⟨name, .literal⟩ = none) (snippet : Snippet) :
    snippet.markers.filterMap select = snippet.occurrences.filterMap select := by
  have run (raw markers : List Marker) :
      (raw.foldl addMarker markers).filterMap select = (markers ++ raw).filterMap select := by
    induction raw generalizing markers with
    | nil => simp
    | cons marker raw induction =>
        rw [List.foldl_cons, induction, List.filterMap_append,
          filterMap_addMarker select bound_only]
        simp [List.filterMap_cons]
        cases select marker <;> simp
  exact run snippet.occurrences []

theorem filterMap_boundValue?_markers (snippet : Snippet) (bindings : Bindings) :
    snippet.markers.filterMap (Marker.boundValue? bindings) = snippet.boundValues bindings :=
  filterMap_markers (Marker.boundValue? bindings) (fun _ => rfl) snippet

theorem mem_addMarker {markers : List Marker} {marker other : Marker} :
    other ∈ addMarker markers marker ↔ other ∈ markers ∨ other = marker := by
  rw [addMarker]
  split
  · rename_i known
    constructor
    · exact Or.inl
    · rintro (member | rfl)
      · exact member
      · exact known.2
  · simp

theorem mem_foldl_addMarker {raw markers : List Marker} {marker : Marker} :
    marker ∈ raw.foldl addMarker markers ↔ marker ∈ markers ∨ marker ∈ raw := by
  induction raw generalizing markers with
  | nil => simp
  | cons head raw induction =>
      rw [List.foldl_cons, induction, mem_addMarker, List.mem_cons, or_assoc]

theorem mem_markers {snippet : Snippet} {marker : Marker} :
    marker ∈ snippet.markers ↔ .marker marker ∈ snippet.pieces := by
  have read (piece : SnippetPiece) : piece.marker? = some marker ↔ piece = .marker marker := by
    cases piece <;> simp [SnippetPiece.marker?]
  simp [markers, mem_foldl_addMarker, read]

theorem mem_literalNames {snippet : Snippet} {name : String} :
    name ∈ snippet.literalNames ↔ .marker ⟨name, .literal⟩ ∈ snippet.pieces := by
  simp [literalNames, Marker.literalName?_eq_some_iff, mem_markers]

/-- A literal name is spliced once, however often it stands in the text. -/
theorem nodup_literalNames (snippet : Snippet) : snippet.literalNames.Nodup := by
  have run (raw markers : List Marker) (distinct : (markers.filterMap Marker.literalName?).Nodup) :
      ((raw.foldl addMarker markers).filterMap Marker.literalName?).Nodup := by
    induction raw generalizing markers with
    | nil => exact distinct
    | cons marker raw induction =>
        apply induction
        rw [addMarker]
        split
        · exact distinct
        · rename_i fresh
          obtain ⟨name, kind⟩ := marker
          cases kind with
          | bound => simpa [List.filterMap_cons] using distinct
          | literal =>
              rw [List.filterMap_append, List.nodup_append]
              refine ⟨distinct, by simp, ?_⟩
              intro known member other single same
              have named : known = name := by simpa [same] using single
              subst named
              obtain ⟨marker, stands, spelled⟩ := List.mem_filterMap.mp member
              rw [Marker.literalName?_eq_some_iff] at spelled
              exact fresh ⟨rfl, spelled ▸ stands⟩
  exact run snippet.occurrences [] (by simp)

/-- Going through markers adds their bound values and splices their literal names. -/
theorem foldl_resolveMarker (bindings : Bindings) (markers : List Marker) (fragment : Fragment) :
    markers.foldl (resolveMarker bindings) fragment =
      ⟨String.ofList
          (spliceAll bindings (markers.filterMap Marker.literalName?) fragment.sql.toList),
        fragment.params ++ markers.filterMap (Marker.boundValue? bindings)⟩ := by
  induction markers generalizing fragment with
  | nil => simp [spliceAll]
  | cons marker markers induction =>
      rw [List.foldl_cons, induction]
      obtain ⟨name, kind⟩ := marker
      cases kind with
      | bound => simp [resolveMarker, List.filterMap_cons, Bindings.value]
      | literal =>
          simp [resolveMarker, List.filterMap_cons, spliceAll, Bindings.literalText,
            Bindings.value]

@[simp]
theorem params_resolve (snippet : Snippet) (bindings : Bindings) :
    (snippet.resolve bindings).params = snippet.boundValues bindings := by
  rw [resolve, foldl_resolveMarker, ← filterMap_boundValue?_markers]
  simp

theorem toList_sql_resolve (snippet : Snippet) (bindings : Bindings) :
    (snippet.resolve bindings).sql.toList =
      spliceAll bindings snippet.literalNames snippet.template.toList := by
  rw [resolve, foldl_resolveMarker]
  simp [literalNames]

end Snippet

end EntitySearch
