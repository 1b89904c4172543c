import EntitySearch.Proofs.Numerals
import EntitySearch.Proofs.Snippet.Resolve
import EntitySearch.Proofs.Snippet.Scan
import Mathlib.Data.List.Induction

/-!
# The grammar of snippets

A text is cut into plain characters and markers in exactly one way in which every marker takes in
the whole name behind its colon, stands behind no other colon, and closes when a single colon
follows its name, and in which nothing that could be such a marker stays plain.  Scanning finds that
cut.  Nothing is lost by it: the template and the names of the bound parameters give the text back.
-/

namespace EntitySearch

namespace Marker

/-- The name that a marker binds. -/
def boundName? : Marker → Option String
  | ⟨name, .bound⟩ => some name
  | ⟨_, .literal⟩ => none

end Marker

namespace SnippetPiece

variable {before : List Char} {pieces : List SnippetPiece}

/-- The piece with a question mark for a bound marker, and as it was written otherwise. -/
def placed : SnippetPiece → List Char
  | .marker ⟨_, .bound⟩ => ['?']
  | piece => piece.source

theorem template_eq_placed (piece : SnippetPiece) : piece.template = piece.placed := by
  rcases piece with char | ⟨name, _ | _⟩ <;> rfl

/-! ## Scanning -/

/-- Scanning takes in a marker as far as it goes. -/
theorem scan_marker {name : String} {kind : MarkerKind} {behind : List Char}
    (named : isName name.toList = true)
    (whole : ∀ next ∈ (behindName behind kind).head?, isNameChar next = false)
    (literal_iff : kind = .literal ↔ BeginsWithColon (behindName behind kind)) :
    scan false (':' :: (name.toList ++ behindName behind kind)) =
      .marker ⟨name, kind⟩ :: scan (kind = .literal) behind := by
  obtain ⟨read, left⟩ := Text.takeWhile_append_of_ends
    (fun _ member => isNameChar_of_isName named member) whole
  have starts : (name.toList ++ behindName behind kind).head?.any isNameStart = true := by
    rw [isName, Bool.and_eq_true] at named
    cases spelled : name.toList <;> simp_all
  rw [scan]
  simp only [starts, read, left, String.ofList_toList, beginsWithColon_iff, ← literal_iff]
  cases kind <;> simp [behindName]

/-- Pieces that fit together are what scanning finds. -/
theorem scan_of_fitTogether (fit : FitTogether before pieces) :
    scan (before.getLast? == some ':') (pieces.flatMap source) = pieces := by
  induction pieces generalizing before with
  | nil => simp [scan]
  | cons piece pieces induction =>
      obtain ⟨first, others⟩ := fitTogether_cons.mp fit
      have rest := induction others
      cases first with
      | @plain char _ unmarked =>
          have stays : ¬ (char == ':' && !(before.getLast? == some ':') &&
              (pieces.flatMap source).head?.any isNameStart) = true := by
            intro starts
            simp only [Bool.and_eq_true, beq_iff_eq, Bool.not_eq_true',
              beq_eq_false_iff_ne] at starts
            obtain ⟨next, present, start⟩ := (Option.any_eq_true _ _).mp starts.2
            rw [unmarked starts.1.1 starts.1.2 next present] at start
            cases start
          rw [List.flatMap_cons, source, List.singleton_append, scan, if_neg stays]
          simpa [source] using rest
      | marker named whole apart literal_iff =>
          rw [getLast?_append_source_marker before named] at rest
          rw [List.flatMap_cons, source_marker_append, beq_eq_false_iff_ne.mpr apart,
            scan_marker named whole literal_iff, rest]

end SnippetPiece

namespace Snippet

/-- The text is cut into the pieces, each of which fits where it stands. -/
structure IsCut (text : List Char) (pieces : List SnippetPiece) : Prop where
  source : pieces.flatMap SnippetPiece.source = text
  fits : SnippetPiece.FitTogether [] pieces

theorem isCut_iff {text : List Char} {pieces : List SnippetPiece} :
    IsCut text pieces ↔ pieces = SnippetPiece.scan false text := by
  constructor
  · rintro ⟨rfl, fits⟩
    exact (SnippetPiece.scan_of_fitTogether fits).symm
  · rintro rfl
    exact ⟨source_scan false text, SnippetPiece.fitTogether_scan rfl⟩

/-! ## The parameters in the order of the text -/

/-- The marker at a position is bound, or none before it is the same. -/
def isFirst (occurrences : List Marker) (entry : Marker × Nat) : Bool :=
  entry.1.kind = .bound ∨ entry.1 ∉ occurrences.take entry.2

/-- The occurrences without those literal ones that stand there before. -/
def firstOccurrences (occurrences : List Marker) : List Marker :=
  (occurrences.zipIdx.filter (isFirst occurrences)).map Prod.fst

theorem isFirst_append (occurrences behind : List Marker) {entry : Marker × Nat}
    (inside : entry.2 < occurrences.length) :
    isFirst (occurrences ++ behind) entry = isFirst occurrences entry := by
  rw [isFirst, isFirst, List.take_append_of_le_length (Nat.le_of_lt inside)]

theorem firstOccurrences_concat (occurrences : List Marker) (marker : Marker) :
    firstOccurrences (occurrences ++ [marker]) =
      firstOccurrences occurrences ++
        if marker.kind = .bound ∨ marker ∉ occurrences then [marker] else [] := by
  have earlier : occurrences.zipIdx.filter (isFirst (occurrences ++ [marker])) =
      occurrences.zipIdx.filter (isFirst occurrences) :=
    List.filter_congr fun entry member =>
      isFirst_append occurrences [marker] (by simpa using List.snd_lt_of_mem_zipIdx member)
  rw [firstOccurrences, List.zipIdx_append, List.filter_append, earlier, List.map_append,
    firstOccurrences]
  congr 1
  simp [isFirst, List.filter_cons, apply_ite (List.map Prod.fst)]

theorem foldl_addMarker (occurrences : List Marker) :
    occurrences.foldl addMarker [] = firstOccurrences occurrences := by
  induction occurrences using List.reverseRecOn with
  | nil => rfl
  | append_singleton occurrences marker induction =>
      have known : marker ∈ firstOccurrences occurrences ↔ marker ∈ occurrences := by
        simp [← induction, mem_foldl_addMarker]
      rw [List.foldl_append, firstOccurrences_concat, induction, List.foldl_cons, List.foldl_nil,
        addMarker]
      obtain ⟨name, _ | _⟩ := marker
      · simp
      · by_cases met : ⟨name, .literal⟩ ∈ occurrences <;> simp [known, met]

/-! ## Giving the text back -/

/-- The names of the bound parameters. -/
def boundNames (snippet : Snippet) : List String :=
  snippet.markers.filterMap Marker.boundName?

/-- Every question mark in turn becomes a colon and the next name. -/
def refill : List String → List Char → List Char
  | [], text => text
  | _, [] => []
  | name :: names, char :: rest =>
      if char = '?' then ':' :: name.toList ++ refill names rest
      else char :: refill (name :: names) rest

theorem refill_append {text : List Char} (names : List String) (unasked : '?' ∉ text)
    (behind : List Char) : refill names (text ++ behind) = text ++ refill names behind := by
  induction text with
  | nil => rfl
  | cons char text induction =>
      rw [List.mem_cons, not_or] at unasked
      have rest := induction unasked.2
      cases names with
      | nil => simp [refill]
      | cons name names =>
          rw [List.cons_append, refill, if_neg (Ne.symm unasked.1), rest, List.cons_append]

theorem refill_placed {pieces : List SnippetPiece}
    (unasked : '?' ∉ pieces.flatMap SnippetPiece.source) :
    refill ((pieces.filterMap SnippetPiece.marker?).filterMap Marker.boundName?)
        (pieces.flatMap SnippetPiece.placed) =
      pieces.flatMap SnippetPiece.source := by
  induction pieces with
  | nil => rfl
  | cons piece pieces induction =>
      rw [List.flatMap_cons, List.mem_append, not_or] at unasked
      have rest := induction unasked.2
      rcases piece with char | ⟨name, _ | _⟩
      · exact (refill_append _ unasked.1 _).trans (congrArg _ rest)
      · exact congrArg (':' :: name.toList ++ ·) rest
      · exact (refill_append _ unasked.1 _).trans (congrArg _ rest)

/-! ## What a text is read as -/

/-- A text has exactly one cut.  The template writes a question mark for every bound marker of it,
the parameters are its markers without the repeated literal ones, and the names of the bound ones
give a text back that has no question mark of its own. -/
theorem ofText_cut (text : String) :
    ∃ pieces,
      IsCut text.toList pieces ∧
      (∀ other, IsCut text.toList other → other = pieces) ∧
      (ofText text).template = String.ofList (pieces.flatMap SnippetPiece.placed) ∧
      (ofText text).markers = firstOccurrences (pieces.filterMap SnippetPiece.marker?) ∧
      ('?' ∉ text.toList →
        refill (ofText text).boundNames (ofText text).template.toList = text.toList) := by
  have cut : IsCut text.toList (ofText text).pieces := isCut_iff.mpr rfl
  have placed : (ofText text).template =
      String.ofList ((ofText text).pieces.flatMap SnippetPiece.placed) := by
    rw [template, funext SnippetPiece.template_eq_placed]
  have names : (ofText text).boundNames = (ofText text).occurrences.filterMap Marker.boundName? :=
    filterMap_markers Marker.boundName? (fun _ => rfl) _
  refine ⟨(ofText text).pieces, cut, fun other => isCut_iff.mp, placed, foldl_addMarker _, ?_⟩
  intro unasked
  rw [← cut.source] at unasked
  rw [names, placed, String.toList_ofList, occurrences, refill_placed unasked, cut.source]

/-- Casts and colons that two markers could share. -/
theorem ofText_cut_casts :
    '?' ∉ ":id::int = :a:b: or :a: = :id".toList ∧
      (ofText ":id::int = :a:b: or :a: = :id").markers =
        [⟨"id", .bound⟩, ⟨"a", .literal⟩, ⟨"id", .bound⟩] ∧
      refill (ofText ":id::int = :a:b: or :a: = :id").boundNames
          (ofText ":id::int = :a:b: or :a: = :id").template.toList =
        ":id::int = :a:b: or :a: = :id".toList := by
  have unasked : '?' ∉ ":id::int = :a:b: or :a: = :id".toList := by decide
  obtain ⟨_, _, _, _, _, again⟩ := ofText_cut ":id::int = :a:b: or :a: = :id"
  exact ⟨unasked, by decide +kernel, again unasked⟩

end Snippet

end EntitySearch
