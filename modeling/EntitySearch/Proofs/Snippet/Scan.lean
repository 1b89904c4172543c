import EntitySearch.Snippet

/-!
# What scanning reads

Every piece that is read from a text fits between what stands before it and what stands behind it.
In particular every marker has a name, and no marker is read right behind a colon, be it a plain one
or the closing one of another marker.
-/

namespace EntitySearch

namespace SnippetPiece

/-- A name that a parameter can have. -/
def isName (word : List Char) : Bool := word.head?.any isNameStart && word.all isNameChar

theorem isNameChar_of_isNameStart {char : Char} (start : isNameStart char = true) :
    isNameChar char = true := by
  simp only [isNameStart, isNameChar, Char.isAlphanum, Bool.or_eq_true] at start ⊢
  rcases start with letter | underscore
  · exact Or.inl (Or.inl letter)
  · exact Or.inr underscore

theorem isNameChar_colon : isNameChar ':' = false := by decide

theorem isName_ne_nil {word : List Char} (name : isName word = true) : word ≠ [] := by
  rintro rfl
  simp [isName] at name

theorem isNameChar_of_isName {word : List Char} (name : isName word = true) {char : Char}
    (member : char ∈ word) : isNameChar char = true := by
  simp only [isName, Bool.and_eq_true, List.all_eq_true] at name
  exact name.2 char member

theorem colon_notMem_of_isName {word : List Char} (name : isName word = true) : ':' ∉ word := by
  intro member
  simpa [isNameChar_colon] using isNameChar_of_isName name member

/-- What a name starts with is a name, unless it is nothing. -/
theorem isName_of_prefix {word start : List Char} (name : isName word = true)
    (leads : start <+: word) (nonempty : start ≠ []) : isName start = true := by
  obtain ⟨rest, rfl⟩ := leads
  obtain ⟨head, tail, rfl⟩ := List.exists_cons_of_ne_nil nonempty
  simp_all [isName]

/-- The longest run of name characters is a name when it begins like one. -/
theorem isName_takeWhile {text : List Char} (starts : text.head?.any isNameStart = true) :
    isName (text.takeWhile isNameChar) = true := by
  cases text with
  | nil => simp at starts
  | cons head tail =>
      have start : isNameStart head = true := by simpa using starts
      have all : ((head :: tail).takeWhile isNameChar).all isNameChar = true := List.all_takeWhile
      rw [isName, all, List.takeWhile_cons, if_pos (isNameChar_of_isNameStart start)]
      simp [start]

theorem source_ne_nil (piece : SnippetPiece) : piece.source ≠ [] := by
  rcases piece with char | ⟨name, _ | _⟩ <;> simp [source]

theorem getLast?_source_literal (name : String) :
    (source (.marker ⟨name, .literal⟩)).getLast? = some ':' := by
  rw [source, List.getLast?_append]
  rfl

theorem getLast?_source_bound {name : String} (named : isName name.toList = true) :
    (source (.marker ⟨name, .bound⟩)).getLast? ≠ some ':' := by
  intro colon
  obtain ⟨front, last, whole⟩ := List.eq_nil_or_concat name.toList |>.resolve_left
    (isName_ne_nil named)
  have same : last = ':' := by
    rw [source, whole, List.concat_eq_append, ← List.cons_append, List.getLast?_concat] at colon
    simpa using colon
  exact colon_notMem_of_isName named (by simp [whole, same])

/-! ## Pieces in their places -/

/-- What follows the name of a marker behind which a text stands. -/
def behindName (behind : List Char) : MarkerKind → List Char
  | .bound => behind
  | .literal => ':' :: behind

/-- One colon begins the text and no second one. -/
def BeginsWithColon (text : List Char) : Prop :=
  text.head? = some ':' ∧ text.tail.head? ≠ some ':'

theorem beginsWithColon_iff {text : List Char} :
    (text.head? == some ':' && text.tail.head? != some ':') = true ↔ BeginsWithColon text := by
  simp [BeginsWithColon]

/-- The piece may stand between two texts. -/
inductive Fits (before : List Char) : SnippetPiece → List Char → Prop where
  /-- A colon is plain only right behind another one, or when no name follows it. -/
  | plain {char : Char} {behind : List Char}
      (unmarked : char = ':' → before.getLast? ≠ some ':' →
        ∀ next ∈ behind.head?, isNameStart next = false) :
      Fits before (.plain char) behind
  /-- A marker has its whole name, stands behind no colon, and is literal when a colon closes it. -/
  | marker {name : String} {kind : MarkerKind} {behind : List Char}
      (named : isName name.toList = true)
      (whole : ∀ next ∈ (behindName behind kind).head?, isNameChar next = false)
      (apart : before.getLast? ≠ some ':')
      (literal_iff : kind = .literal ↔ BeginsWithColon (behindName behind kind)) :
      Fits before (.marker ⟨name, kind⟩) behind

/-- Every piece fits between its neighbours; a text stands before all of them. -/
def FitTogether (before : List Char) (pieces : List SnippetPiece) : Prop :=
  ∀ front piece back, pieces = front ++ piece :: back →
    Fits (before ++ front.flatMap source) piece (back.flatMap source)

variable {before text : List Char} {piece : SnippetPiece} {pieces : List SnippetPiece}

theorem fitTogether_cons :
    FitTogether before (piece :: pieces) ↔
      Fits before piece (pieces.flatMap source) ∧ FitTogether (before ++ piece.source) pieces := by
  constructor
  · intro fit
    refine ⟨by simpa using fit [] piece pieces rfl, fun front other back split => ?_⟩
    simpa using fit (piece :: front) other back (by rw [split, List.cons_append])
  · rintro ⟨first, others⟩ (_ | ⟨head, front⟩) other back split
    · obtain ⟨rfl, rfl⟩ := List.cons.inj split
      simpa using first
    · obtain ⟨rfl, rest⟩ := List.cons.inj split
      simpa using others front other back rest

theorem source_marker_append (name : String) (kind : MarkerKind) (behind : List Char) :
    source (.marker ⟨name, kind⟩) ++ behind = ':' :: (name.toList ++ behindName behind kind) := by
  cases kind <;> simp [source, behindName]

theorem getLast?_append_source_marker (before : List Char) {name : String} {kind : MarkerKind}
    (named : isName name.toList = true) :
    ((before ++ source (.marker ⟨name, kind⟩)).getLast? == some ':') =
      decide (kind = .literal) := by
  cases last : (source (.marker ⟨name, kind⟩)).getLast? with
  | none => exact absurd (List.getLast?_eq_none_iff.mp last) (source_ne_nil _)
  | some char =>
      rw [List.getLast?_append, last, Option.some_or, ← last]
      cases kind with
      | bound => exact beq_eq_false_iff_ne.mpr (getLast?_source_bound named)
      | literal => rw [getLast?_source_literal]; rfl

/-! ## What is read -/

/-- A marker that opens behind a text has a name, and the text does not end in a colon. -/
theorem isName_and_apart_of_opens {afterColon : Bool} {char : Char} {rest : List Char}
    (start : (before.getLast? == some ':') = afterColon)
    (opens : (char == ':' && !afterColon && rest.head?.any isNameStart) = true) :
    isName (String.ofList (rest.takeWhile isNameChar)).toList = true ∧
      before.getLast? ≠ some ':' := by
  simp only [Bool.and_eq_true, Bool.not_eq_true'] at opens
  rw [opens.1.2] at start
  rw [String.toList_ofList]
  exact ⟨isName_takeWhile opens.2, beq_eq_false_iff_ne.mp start⟩

/-- What scanning finds fits together. -/
theorem fitTogether_scan {afterColon : Bool}
    (start : (before.getLast? == some ':') = afterColon) :
    FitTogether before (scan afterColon text) := by
  fun_induction scan afterColon text generalizing before with
  | case1 => simp [FitTogether]
  | case2 afterColon char rest starts name behind closed =>
      rename_i later
      obtain ⟨named, apart⟩ := isName_and_apart_of_opens start starts
      rw [fitTogether_cons, Snippet.source_scan]
      refine ⟨.marker named (by simp [behindName, isNameChar_colon]) apart (iff_of_true rfl ?_),
        later (getLast?_append_source_marker before named)⟩
      rw [beginsWithColon_iff] at closed
      exact ⟨rfl, closed.2⟩
  | case3 afterColon char rest starts name behind unclosed =>
      rename_i later
      obtain ⟨named, apart⟩ := isName_and_apart_of_opens start starts
      rw [fitTogether_cons, Snippet.source_scan]
      refine ⟨.marker named ?_ apart (iff_of_false (by simp) ?_),
        later (getLast?_append_source_marker before named)⟩
      · intro next present
        have first : (rest.dropWhile isNameChar).head? = some next := present
        have stops := List.head?_dropWhile_not isNameChar rest
        rw [first] at stops
        exact stops
      · rwa [beginsWithColon_iff] at unclosed
  | case4 afterColon char rest starts later =>
      rw [fitTogether_cons, Snippet.source_scan]
      refine ⟨.plain fun colon apart next present => ?_, later (by simp [source])⟩
      rw [Bool.eq_false_iff]
      intro named
      apply starts
      have open_colon : afterColon = false := by
        rw [← start]
        exact beq_eq_false_iff_ne.mpr apart
      simp [colon, open_colon, Option.mem_def.mp present, named]

theorem fits_of_scan {afterColon : Bool} {front back : List SnippetPiece}
    (split : scan afterColon text = front ++ piece :: back) :
    ∃ before, (before.getLast? == some ':') = afterColon ∧
      Fits (before ++ front.flatMap source) piece (back.flatMap source) := by
  obtain ⟨before, start⟩ : ∃ before : List Char, (before.getLast? == some ':') = afterColon := by
    cases afterColon
    · exact ⟨[], rfl⟩
    · exact ⟨[':'], rfl⟩
  exact ⟨before, start, fitTogether_scan start front piece back split⟩

/-- A marker that scanning reads has a name. -/
theorem isName_of_mem_scan {afterColon : Bool} {name : String} {kind : MarkerKind}
    (member : .marker ⟨name, kind⟩ ∈ scan afterColon text) : isName name.toList = true := by
  obtain ⟨front, back, split⟩ := List.append_of_mem member
  obtain ⟨before, -, fits⟩ := fits_of_scan split
  cases fits with
  | marker named => exact named

/-- The pieces end in a colon; `afterColon` says what stands before them. -/
def endsInColon (afterColon : Bool) (pieces : List SnippetPiece) : Bool :=
  ((pieces.flatMap source).getLast?.map (· == ':')).getD afterColon

/-- No marker stands right behind a colon. -/
theorem endsInColon_of_scan {afterColon : Bool} {front back : List SnippetPiece}
    {parameter : Marker} (split : scan afterColon text = front ++ .marker parameter :: back) :
    endsInColon afterColon front = false := by
  obtain ⟨before, start, fits⟩ := fits_of_scan split
  cases fits with
  | marker _ _ apart =>
      rw [List.getLast?_append] at apart
      rw [endsInColon]
      cases last : (front.flatMap source).getLast? with
      | none =>
          rw [last, Option.none_or] at apart
          exact start.symm.trans (beq_eq_false_iff_ne.mpr apart)
      | some char =>
          rw [last, Option.some_or] at apart
          simpa using apart

end SnippetPiece

end EntitySearch
