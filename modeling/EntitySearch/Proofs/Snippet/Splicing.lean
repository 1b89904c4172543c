import EntitySearch.Proofs.Snippet.Resolve
import EntitySearch.Proofs.Snippet.Scan
import Mathlib.Data.List.Basic

/-!
# Splicing against simultaneous substitution

The literal names of a snippet are spliced one after another, each throughout the text that the
earlier ones have left.  This agrees with replacing all parameters at once as long as the marker
text of each name stands, at its turn, nowhere but at the markers that were read from the text.  It
fails where a spliced text brings in a later marker, and where colons that belong to no marker, or
to two of them, spell one.
-/

namespace EntitySearch

namespace Text

theorem replaceAll_pattern_append {pattern : List Char} (replacement rest : List Char)
    (nonempty : pattern ≠ []) :
    replaceAll pattern replacement (pattern ++ rest) =
      replacement ++ replaceAll pattern replacement rest := by
  obtain ⟨head, tail, rfl⟩ := List.exists_cons_of_ne_nil nonempty
  have starts : (head :: tail).isPrefixOf (head :: (tail ++ rest)) = true :=
    List.isPrefixOf_iff_prefix.mpr ⟨rest, rfl⟩
  rw [List.cons_append, replaceAll]
  simp [starts]

theorem replaceAll_cons_of_not_starts {pattern rest : List Char} {char : Char}
    (replacement : List Char) (absent : ¬pattern <+: char :: rest) :
    replaceAll pattern replacement (char :: rest) =
      char :: replaceAll pattern replacement rest := by
  rw [← List.isPrefixOf_iff_prefix, Bool.not_eq_true] at absent
  rw [replaceAll]
  simp [absent]

/-- Characters at which no occurrence starts stay in their places. -/
theorem replaceAll_append_of_free {pattern : List Char} (replacement left rest : List Char)
    (free : ∀ before after, left ++ rest = before ++ pattern ++ after →
      left.length ≤ before.length) :
    replaceAll pattern replacement (left ++ rest) =
      left ++ replaceAll pattern replacement rest := by
  induction left with
  | nil => rfl
  | cons char left induction =>
      have absent : ¬pattern <+: char :: (left ++ rest) := by
        rintro ⟨after, whole⟩
        simpa using free [] after (by simpa using whole.symm)
      rw [List.cons_append, replaceAll_cons_of_not_starts replacement absent, induction,
        List.cons_append]
      intro before after whole
      simpa using free (char :: before) after (by simp [whole])

/-- The pattern stands in the text of the pieces only where the target piece was written. -/
def OccursOnlyAt {α : Type} (write : α → List Char) (target : α) (pattern : List Char)
    (pieces : List α) : Prop :=
  ∀ before after, pieces.flatMap write = before ++ pattern ++ after →
    ∃ front back, pieces = front ++ target :: back ∧ before = front.flatMap write

namespace OccursOnlyAt

variable {α : Type} {write : α → List Char} {target head : α} {pattern : List Char}
  {pieces : List α}

theorem tail (only : OccursOnlyAt write target pattern (head :: pieces))
    (written : write target = pattern) (nonempty : pattern ≠ []) :
    OccursOnlyAt write target pattern pieces := by
  intro before after whole
  obtain ⟨front, back, split, position⟩ :=
    only (write head ++ before) after (by simp [whole])
  cases front with
  | nil =>
      have same : head = target := by simpa using congrArg List.head? split
      have empty : write target = [] := by
        rw [← same]
        exact List.append_eq_nil_iff.mp (by simpa using position) |>.1
      exact absurd (written.symm.trans empty) nonempty
  | cons first front =>
      obtain ⟨rfl, rest⟩ : head = first ∧ pieces = front ++ target :: back := by simpa using split
      exact ⟨front, back, rest, by simpa using position⟩

/-- Nothing that is replaced starts inside a piece other than the target. -/
theorem free (only : OccursOnlyAt write target pattern (head :: pieces)) (other : head ≠ target)
    (before after : List Char)
    (whole : write head ++ pieces.flatMap write = before ++ pattern ++ after) :
    (write head).length ≤ before.length := by
  obtain ⟨front, back, split, position⟩ := only before after (by simpa using whole)
  cases front with
  | nil => exact absurd (by simpa using congrArg List.head? split) other
  | cons first front =>
      obtain ⟨rfl, -⟩ : head = first ∧ pieces = front ++ target :: back := by simpa using split
      simp [position]

end OccursOnlyAt

/-- A pattern that stands only at target pieces is replaced piece by piece. -/
theorem replaceAll_flatMap {α : Type} [DecidableEq α] {write : α → List Char} {target : α}
    {pattern : List Char} (replacement : List Char) {pieces : List α}
    (only : OccursOnlyAt write target pattern pieces) (written : write target = pattern)
    (nonempty : pattern ≠ []) :
    replaceAll pattern replacement (pieces.flatMap write) =
      pieces.flatMap fun piece => if piece = target then replacement else write piece := by
  induction pieces with
  | nil => simp
  | cons head pieces induction =>
      have rest := induction (only.tail written nonempty)
      rw [List.flatMap_cons, List.flatMap_cons, ← rest]
      by_cases target_first : head = target
      · rw [if_pos target_first, target_first, written]
        exact replaceAll_pattern_append replacement _ nonempty
      · rw [if_neg target_first]
        exact replaceAll_append_of_free replacement _ _ (only.free target_first)

/-- The piece in whose text a character stands. -/
theorem exists_piece_of_flatMap_eq {α : Type} {write : α → List Char} {pieces : List α}
    {before after : List Char} {char : Char}
    (whole : pieces.flatMap write = before ++ char :: after) :
    ∃ front piece back left right,
      pieces = front ++ piece :: back ∧ write piece = left ++ char :: right ∧
        before = front.flatMap write ++ left ∧ after = right ++ back.flatMap write := by
  induction pieces generalizing before with
  | nil => simp at whole
  | cons head pieces induction =>
      rw [List.flatMap_cons, List.append_eq_append_iff] at whole
      rcases whole with ⟨later, position, rest⟩ | ⟨right, written, rest⟩
      · obtain ⟨front, piece, back, left, right, split, written, inner, behind⟩ :=
          induction rest
        exact ⟨head :: front, piece, back, left, right, by simp [split], written,
          by simp [position, inner], behind⟩
      · cases right with
        | nil =>
            have later : pieces.flatMap write = [] ++ char :: after := by simpa using rest.symm
            obtain ⟨front, piece, back, left, right, split, inside, inner, behind⟩ :=
              induction later
            exact ⟨head :: front, piece, back, left, right, by simp [split], inside,
              by simpa [written] using inner, behind⟩
        | cons first right =>
            obtain ⟨rfl, behind⟩ : char = first ∧ after = right ++ pieces.flatMap write := by
              simpa using rest
            exact ⟨[], head, pieces, before, right, rfl, written, by simp, behind⟩

/-- What stands before the first of some characters is determined by the text. -/
theorem eq_of_append_cons {left right after after' : List Char} {char : Char}
    (left_free : char ∉ left) (right_free : char ∉ right)
    (same : left ++ char :: after = right ++ char :: after') : left = right := by
  rcases List.append_eq_append_iff.mp same with ⟨rest, rfl, whole⟩ | ⟨rest, rfl, whole⟩
  · cases rest with
    | nil => simp
    | cons head rest => simp_all
  · cases rest with
    | nil => simp
    | cons head rest => simp_all

end Text

namespace SnippetPiece

/-- The piece with its parameter replaced, a bound one by a placeholder and a literal one by the
text of its value. -/
def substituted (bindings : Bindings) : SnippetPiece → List Char
  | plain char => [char]
  | marker ⟨_, .bound⟩ => ['?']
  | marker ⟨name, .literal⟩ => bindings.literalText name

/-- The piece in the template after some names have been spliced. -/
def spliced (bindings : Bindings) (names : List String) : SnippetPiece → List Char
  | plain char => [char]
  | marker ⟨_, .bound⟩ => ['?']
  | marker ⟨name, .literal⟩ =>
      if name ∈ names then bindings.literalText name else (Marker.text ⟨name, .literal⟩).toList

theorem spliced_nil (bindings : Bindings) (piece : SnippetPiece) :
    piece.spliced bindings [] = piece.template := by
  rcases piece with char | ⟨name, _ | _⟩ <;> simp [spliced, template, Marker.text]

theorem spliced_append_singleton (bindings : Bindings) (names : List String) (name : String)
    (piece : SnippetPiece) :
    (if piece = .marker ⟨name, .literal⟩ then bindings.literalText name
      else piece.spliced bindings names) = piece.spliced bindings (names ++ [name]) := by
  rcases piece with char | ⟨other, _ | _⟩
  · simp [spliced]
  · simp [spliced]
  · by_cases same : other = name <;> simp [spliced, same]

end SnippetPiece

namespace Snippet

/-- The text with all parameters replaced at once. -/
def substitution (snippet : Snippet) (bindings : Bindings) : List Char :=
  snippet.pieces.flatMap (SnippetPiece.substituted bindings)

/-- The template after some names have been spliced into their markers and nowhere else. -/
def splicedText (snippet : Snippet) (bindings : Bindings) (names : List String) : List Char :=
  snippet.pieces.flatMap (SnippetPiece.spliced bindings names)

/-- When the names are spliced in this order, the marker text of each stands, at its turn, only at
its own markers. -/
def SplicesApart (snippet : Snippet) (bindings : Bindings) (order : List String) : Prop :=
  ∀ earlier name later, order = earlier ++ name :: later →
    Text.OccursOnlyAt (SnippetPiece.spliced bindings earlier) (.marker ⟨name, .literal⟩)
      (Marker.text ⟨name, .literal⟩).toList snippet.pieces

theorem toList_template (snippet : Snippet) (bindings : Bindings) :
    snippet.template.toList = snippet.splicedText bindings [] := by
  have same : SnippetPiece.spliced bindings [] = SnippetPiece.template :=
    funext (SnippetPiece.spliced_nil bindings)
  simp [template, splicedText, same]

/-- One name is spliced into exactly its markers. -/
theorem replaceAll_splicedText {snippet : Snippet} {bindings : Bindings} {names : List String}
    {name : String} (fresh : name ∉ names)
    (only : Text.OccursOnlyAt (SnippetPiece.spliced bindings names) (.marker ⟨name, .literal⟩)
      (Marker.text ⟨name, .literal⟩).toList snippet.pieces) :
    Text.replaceAll (Marker.text ⟨name, .literal⟩).toList (bindings.literalText name)
        (snippet.splicedText bindings names) =
      snippet.splicedText bindings (names ++ [name]) := by
  have written : SnippetPiece.spliced bindings names (.marker ⟨name, .literal⟩) =
      (Marker.text ⟨name, .literal⟩).toList := by
    simp [SnippetPiece.spliced, fresh]
  rw [splicedText, Text.replaceAll_flatMap (bindings.literalText name) only written
    (by simp [Marker.text])]
  simp only [SnippetPiece.spliced_append_singleton, splicedText]

/-- Splicing in an order in which names stay apart fills in their markers and nothing else. -/
theorem spliceAll_template {snippet : Snippet} {bindings : Bindings} {order : List String}
    (distinct : order.Nodup) (apart : snippet.SplicesApart bindings order) :
    spliceAll bindings order snippet.template.toList = snippet.splicedText bindings order := by
  have run (earlier later : List String) (split : order = earlier ++ later) :
      spliceAll bindings later (snippet.splicedText bindings earlier) =
        snippet.splicedText bindings order := by
    induction later generalizing earlier with
    | nil => simp [spliceAll, split]
    | cons name later induction =>
        have fresh : name ∉ earlier := by
          intro member
          rw [split, List.nodup_append] at distinct
          exact distinct.2.2 name member name (by simp) rfl
        rw [spliceAll, List.foldl_cons,
          replaceAll_splicedText fresh (apart earlier name later split)]
        exact induction (earlier ++ [name]) (by simp [split])
  rw [toList_template snippet bindings]
  exact run [] order rfl

/-- Once every literal name has been spliced, all parameters have been replaced. -/
theorem splicedText_eq_substitution {snippet : Snippet} (bindings : Bindings)
    {names : List String} (complete : ∀ name ∈ snippet.literalNames, name ∈ names) :
    snippet.splicedText bindings names = snippet.substitution bindings := by
  rw [splicedText, substitution]
  apply List.flatMap_congr
  intro piece member
  rcases piece with char | ⟨name, _ | _⟩
  · rfl
  · rfl
  · simp [SnippetPiece.spliced, SnippetPiece.substituted,
      complete name (mem_literalNames.mpr member)]

/-- Every name that stands between two colons of the text is a literal parameter read there. -/
def MarkersSeparate (snippet : Snippet) : Prop :=
  ∀ word, SnippetPiece.isName word = true →
    Text.OccursOnlyAt SnippetPiece.source (.marker ⟨String.ofList word, .literal⟩)
      (':' :: word ++ [':']) snippet.pieces

theorem isName_of_mem_pieces {text name : String} {kind : MarkerKind}
    (member : .marker ⟨name, kind⟩ ∈ (ofText text).pieces) :
    SnippetPiece.isName name.toList = true :=
  SnippetPiece.isName_of_mem_scan member

/-- What spliced text has before its first colon is written in plain characters, up to the colon or
up to a marker. -/
theorem exists_plain_start {bindings : Bindings} {names : List String} {word after : List Char}
    {pieces : List SnippetPiece}
    (whole : pieces.flatMap (SnippetPiece.spliced bindings names) = word ++ ':' :: after) :
    ∃ start next back, start <+: word ∧ pieces = start.map .plain ++ next :: back ∧
      ((start = word ∧ next = .plain ':') ∨ ∃ parameter, next = .marker parameter) := by
  induction word generalizing pieces with
  | nil =>
      rcases pieces with _ | ⟨char | parameter, back⟩
      · simp at whole
      · have colon : char = ':' := by
          simpa [SnippetPiece.spliced] using congrArg List.head? whole
        exact ⟨[], .plain char, back, List.nil_prefix, rfl, Or.inl ⟨rfl, by rw [colon]⟩⟩
      · exact ⟨[], .marker parameter, back, List.nil_prefix, rfl, Or.inr ⟨parameter, rfl⟩⟩
  | cons head word induction =>
      rcases pieces with _ | ⟨char | parameter, pieces⟩
      · simp at whole
      · obtain ⟨rfl, rest⟩ : char = head ∧
            pieces.flatMap (SnippetPiece.spliced bindings names) = word ++ ':' :: after := by
          simpa [SnippetPiece.spliced] using whole
        obtain ⟨start, next, back, leads, split, reached⟩ := induction rest
        refine ⟨char :: start, next, back, ?_, by simp [split], ?_⟩
        · exact List.cons_prefix_cons.mpr ⟨rfl, leads⟩
        · simpa using reached
      · exact ⟨[], .marker parameter, pieces, List.nil_prefix, rfl, Or.inr ⟨parameter, rfl⟩⟩

/-- The last character of a piece is not where another piece starts. -/
theorem source_front_ne {pieces front back front' back' : List SnippetPiece}
    {piece piece' : SnippetPiece} {start : List Char} {last : Char}
    (split : pieces = front ++ piece :: back) (split' : pieces = front' ++ piece' :: back')
    (written : piece.source = start ++ [last]) (other : start = [] → piece ≠ piece') :
    front.flatMap SnippetPiece.source ++ start ≠ front'.flatMap SnippetPiece.source := by
  intro position
  have lengths := congrArg List.length position
  rw [split, List.append_eq_append_iff] at split'
  have pieceLength := congrArg List.length written
  rcases split' with ⟨middle, later, rest⟩ | ⟨middle, earlier, rest⟩
  · cases middle with
    | nil =>
        have aligned : start = [] := by simpa [later] using lengths
        exact other aligned (by simpa using congrArg List.head? rest)
    | cons first middle =>
        obtain ⟨rfl, -⟩ : piece = first ∧ back = middle ++ piece' :: back' := by simpa using rest
        simp only [later, List.flatMap_append, List.flatMap_cons, List.length_append,
          List.length_singleton] at lengths pieceLength
        omega
  · cases middle with
    | nil =>
        have aligned : start = [] := by simpa [earlier] using lengths
        exact other aligned (by simpa using (congrArg List.head? rest).symm)
    | cons first middle =>
        obtain ⟨rfl, -⟩ : piece' = first ∧ back' = middle ++ piece :: back := by simpa using rest
        have positive := List.length_pos_iff.mpr piece'.source_ne_nil
        simp only [earlier, List.flatMap_append, List.flatMap_cons, List.length_append] at lengths
        omega

/-- Behind a colon of a text whose markers are separate, splicing spells no name and colon. -/
theorem spliced_ne_of_colon {text : String} {bindings : Bindings} {names : List String}
    {front back : List SnippetPiece} {piece : SnippetPiece} {word after : List Char}
    (start : List Char) (separate : (ofText text).MarkersSeparate)
    (split : (ofText text).pieces = front ++ piece :: back)
    (written : piece.source = start ++ [':'])
    (named : SnippetPiece.isName word = true) :
    back.flatMap (SnippetPiece.spliced bindings names) ≠ word ++ ':' :: after := by
  intro whole
  obtain ⟨lead, next, rest, leads, backSplit, reached⟩ := exists_plain_start whole
  have scanned : SnippetPiece.scan false text.toList = front ++ piece :: back := split
  have lead_ne_nil : lead ≠ [] := by
    rintro rfl
    rcases reached with ⟨empty, -⟩ | ⟨parameter, rfl⟩
    · exact SnippetPiece.isName_ne_nil named empty.symm
    · have marked : SnippetPiece.scan false text.toList =
          (front ++ [piece]) ++ .marker parameter :: rest := by simpa [backSplit] using scanned
      have free := SnippetPiece.endsInColon_of_scan marked
      rw [SnippetPiece.endsInColon, List.flatMap_append, List.flatMap_singleton, written,
        ← List.append_assoc, List.getLast?_concat] at free
      simp at free
  have leadNamed := SnippetPiece.isName_of_prefix named leads lead_ne_nil
  obtain ⟨behind, nextWritten⟩ : ∃ behind, next.source = ':' :: behind := by
    rcases reached with ⟨-, rfl⟩ | ⟨⟨name, _ | _⟩, rfl⟩
    · exact ⟨[], rfl⟩
    · exact ⟨name.toList, rfl⟩
    · exact ⟨name.toList ++ [':'], rfl⟩
  obtain ⟨front', back', split', position⟩ :=
    separate lead leadNamed (front.flatMap SnippetPiece.source ++ start)
      (behind ++ rest.flatMap SnippetPiece.source) (by
        have leadWritten : (lead.map SnippetPiece.plain).flatMap SnippetPiece.source = lead := by
          simp [List.flatMap_map, SnippetPiece.source]
        rw [split, backSplit, List.flatMap_append, List.flatMap_cons, List.flatMap_append,
          List.flatMap_cons, written, nextWritten, leadWritten]
        simp)
  refine source_front_ne split split' written ?_ position
  rintro rfl same
  rw [same] at written
  simp [SnippetPiece.source] at written

/-- Where markers are separate and no spliced text has a colon, names splice apart in any order. -/
theorem splicesApart_of_separate {text : String} {bindings : Bindings} {order : List String}
    (separate : (ofText text).MarkersSeparate)
    (colonFree : ∀ name ∈ (ofText text).literalNames, ':' ∉ bindings.literalText name)
    (spliced : order.Perm (ofText text).literalNames) :
    (ofText text).SplicesApart bindings order := by
  intro earlier name later ordered before after whole
  have literal : name ∈ (ofText text).literalNames := by
    rw [← spliced.mem_iff, ordered]
    simp
  have fresh : name ∉ earlier := by
    have distinct := spliced.nodup_iff.mpr (ofText text).nodup_literalNames
    rw [ordered, List.nodup_append] at distinct
    exact fun member => distinct.2.2 name member name (by simp) rfl
  have named := isName_of_mem_pieces (mem_literalNames.mp literal)
  have opening : (ofText text).pieces.flatMap (SnippetPiece.spliced bindings earlier) =
      before ++ ':' :: (name.toList ++ ':' :: after) := by simpa [Marker.text] using whole
  obtain ⟨front, piece, back, left, right, split, written, position, rest⟩ :=
    Text.exists_piece_of_flatMap_eq opening
  have member : piece ∈ (ofText text).pieces := by simp [split]
  rcases piece with char | ⟨other, _ | _⟩
  · -- A plain colon: the characters behind it would spell the name once more.
    obtain ⟨rfl, rfl, rfl⟩ : left = [] ∧ ':' = char ∧ right = [] := by
      simpa [SnippetPiece.spliced, List.singleton_eq_append_iff, and_assoc] using written
    exact absurd rest.symm (spliced_ne_of_colon [] separate split rfl named)
  · simp [SnippetPiece.spliced, List.singleton_eq_append_iff] at written
  · have otherColonFree := SnippetPiece.colon_notMem_of_isName (isName_of_mem_pieces member)
    by_cases done : other ∈ earlier
    · have colonFreeText := colonFree other (mem_literalNames.mpr member)
      rw [SnippetPiece.spliced, if_pos done] at written
      exact absurd (by simp [written]) colonFreeText
    · have marked : ':' :: other.toList ++ [':'] = left ++ ':' :: right := by
        simpa [SnippetPiece.spliced, done, Marker.text] using written
      cases left with
      | nil =>
          have opened : right = other.toList ++ [':'] := by simpa using marked.symm
          have same : name.toList = other.toList := by
            have spelled : name.toList ++ ':' :: after =
                other.toList ++ ':' :: back.flatMap (SnippetPiece.spliced bindings earlier) := by
              simpa [opened] using rest
            exact Text.eq_of_append_cons (SnippetPiece.colon_notMem_of_isName named)
              otherColonFree spelled
          refine ⟨front, back, ?_, by simpa using position⟩
          rw [split, String.toList_injective same]
      | cons first left =>
          -- The closing colon of a marker: as with a plain colon.
          obtain ⟨rfl, closing⟩ : ':' = first ∧ other.toList ++ [':'] = left ++ ':' :: right := by
            simpa using marked
          obtain ⟨rfl, -, rfl⟩ :=
            (List.append_cons_inj_of_notMem otherColonFree (by simp)).mp closing
          exact absurd rest.symm
            (spliced_ne_of_colon (':' :: other.toList) separate split rfl named)

/-- A text is resolved by binding the values of its bound parameters in their order and splicing
its literal names one after another.  In every order in which the names splice apart, this replaces
all parameters at once; where markers are separate and spliced texts have no colons, every order is
one of these. -/
theorem resolve_ofText_eq_substitution (text : String) (bindings : Bindings) :
    let snippet := ofText text
    snippet.pieces.flatMap SnippetPiece.source = text.toList ∧
      (snippet.resolve bindings).params = snippet.boundValues bindings ∧
      (snippet.resolve bindings).sql.toList =
        spliceAll bindings snippet.literalNames snippet.template.toList ∧
      (∀ order : List String, order.Perm snippet.literalNames →
        snippet.SplicesApart bindings order →
          spliceAll bindings order snippet.template.toList = snippet.substitution bindings) ∧
      (snippet.MarkersSeparate →
        (∀ name ∈ snippet.literalNames, ':' ∉ bindings.literalText name) →
          ∀ order : List String, order.Perm snippet.literalNames →
            snippet.SplicesApart bindings order) := by
  intro snippet
  refine ⟨source_scan false text.toList, params_resolve snippet bindings,
    toList_sql_resolve snippet bindings, ?_, ?_⟩
  · intro order spliced apart
    have distinct := spliced.nodup_iff.mpr snippet.nodup_literalNames
    rw [spliceAll_template distinct apart]
    exact splicedText_eq_substitution bindings fun name literal => spliced.mem_iff.mpr literal
  · intro separate colonFree order spliced
    exact splicesApart_of_separate separate colonFree spliced

/-- A table whose name ends in a spliced text. -/
theorem resolve_ofText_suffix :
    (ofText "t_:s: u").MarkersSeparate ∧
      ((ofText "t_:s: u").resolve ⟨[("s", .text "2024")]⟩).sql.toList =
        (ofText "t_:s: u").substitution ⟨[("s", .text "2024")]⟩ := by
  have scanned : (ofText "t_:s: u").pieces =
      [.plain 't', .plain '_', .marker ⟨"s", .literal⟩, .plain ' ', .plain 'u'] := by
    decide +kernel
  have names : (ofText "t_:s: u").literalNames = ["s"] := by decide +kernel
  have separate : (ofText "t_:s: u").MarkersSeparate := by
    intro word named before after whole
    have colonFree := SnippetPiece.colon_notMem_of_isName named
    rw [scanned] at whole ⊢
    simp only [SnippetPiece.source, List.flatMap_cons, List.flatMap_nil] at whole
    simp [List.cons_eq_append_iff] at whole
    obtain ⟨rest, rfl, ⟨rfl, marked⟩ | ⟨-, unmarked⟩⟩ := whole
    · have spelled : word = ['s'] :=
        Text.eq_of_append_cons colonFree (by decide) marked
      subst spelled
      exact ⟨[.plain 't', .plain '_'], [.plain ' ', .plain 'u'], rfl, rfl⟩
    · have colon : ':' ∈ [' ', 'u'] := by simp [← unmarked]
      simp at colon
  obtain ⟨-, -, resolved, atOnce, inEveryOrder⟩ :=
    resolve_ofText_eq_substitution "t_:s: u" ⟨[("s", .text "2024")]⟩
  refine ⟨separate, ?_⟩
  rw [resolved]
  apply atOnce _ (List.Perm.refl _)
  apply inEveryOrder separate _ _ (List.Perm.refl _)
  rw [names]
  decide +kernel

/-- A spliced text may bring in a marker that is spliced later, colons that belong to no marker are
taken for one, and of two markers that share a colon one may be lost. -/
theorem resolve_ofText_ne_substitution :
    (((ofText ":a: :b:").resolve ⟨[("a", .text ":b:"), ("b", .text "x")]⟩).sql = "x x" ∧
        (ofText ":a: :b:").substitution ⟨[("a", .text ":b:"), ("b", .text "x")]⟩ =
          ":b: x".toList) ∧
      (((ofText "::s: :s:").resolve ⟨[("s", .text "x")]⟩).sql = ":x x" ∧
        (ofText "::s: :s:").substitution ⟨[("s", .text "x")]⟩ = "::s: x".toList) ∧
      (((ofText ":b: :a:b:").resolve ⟨[("a", .text "x"), ("b", .text "y")]⟩).sql = "y :ay" ∧
        (ofText ":b: :a:b:").substitution ⟨[("a", .text "x"), ("b", .text "y")]⟩ =
          "y xb:".toList) := by
  decide +kernel

end Snippet

end EntitySearch
