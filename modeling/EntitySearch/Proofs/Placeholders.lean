import EntitySearch.Proofs.Assembly
import EntitySearch.Proofs.Snippet.Resolve

/-!
# Placeholders and their values

A statement consists of pieces with text between them that has no placeholders, and every piece
brings as many values as it has placeholders.  So the values of a statement, taken from left to
right, meet the placeholders of the pieces that brought them.
-/

namespace EntitySearch

/-- The number of placeholders in a text. -/
def placeholders (text : String) : Nat := text.toList.count '?'

@[simp]
theorem placeholders_append (left right : String) :
    placeholders (left ++ right) = placeholders left + placeholders right := by
  simp [placeholders]

theorem placeholders_eq_zero_iff {text : String} : placeholders text = 0 ↔ '?' ∉ text.toList :=
  List.count_eq_zero

theorem placeholders_intercalate {separator : String} (glue : placeholders separator = 0)
    {texts : List String} (each : ∀ text ∈ texts, placeholders text = 0) :
    placeholders (String.intercalate separator texts) = 0 := by
  induction texts with
  | nil => rfl
  | cons text texts induction =>
      have first := each text (by simp)
      have others := induction fun other member => each other (by simp [member])
      cases texts with
      | nil => simpa using first
      | cons next texts => simp [String.intercalate_cons_cons, first, glue, others]

/-- Replacing keeps the number of a character that neither the pattern nor the replacement has. -/
theorem Text.count_replaceAll {pattern replacement : List Char} {char : Char}
    (unwanted : char ∉ pattern) (unspliced : char ∉ replacement) (text : List Char) :
    (replaceAll pattern replacement text).count char = text.count char := by
  fun_induction replaceAll pattern replacement text with
  | case1 => rfl
  | case2 first rest found induction =>
      simp only [Bool.and_eq_true, Bool.not_eq_true', List.isEmpty_eq_false_iff] at found
      obtain ⟨tail, whole⟩ := List.isPrefixOf_iff_prefix.mp found.1
      obtain ⟨head, pattern, rfl⟩ := List.exists_cons_of_ne_nil found.2
      obtain ⟨-, rfl⟩ : head = first ∧ pattern ++ tail = rest := by simpa using whole
      rw [List.count_append, induction, ← whole, List.count_append,
        List.count_eq_zero.mpr unspliced, List.count_eq_zero.mpr unwanted]
      simp
  | case3 first rest _ induction => simp [List.count_cons, induction]

namespace Fragment

/-- There is one value for every placeholder. -/
def Balanced (piece : Fragment) : Prop := placeholders piece.sql = piece.params.length

/-- The statement consists of the pieces, in this order and with text without placeholders before,
between and behind them; each piece has one value for every placeholder. -/
inductive ConsistsOf : Fragment → List Fragment → Prop where
  | glue (text : String) : placeholders text = 0 → ConsistsOf (ofText text) []
  | piece (text : String) (part : Fragment) {rest : Fragment} {pieces : List Fragment} :
      placeholders text = 0 → part.Balanced → ConsistsOf rest pieces →
        ConsistsOf (ofText text ++ part ++ rest) (part :: pieces)

namespace ConsistsOf

theorem of_balanced {part : Fragment} (balanced : part.Balanced) : part.ConsistsOf [part] := by
  simpa using ConsistsOf.piece "" part rfl balanced (.glue "" rfl)

theorem glue_append {statement : Fragment} {pieces : List Fragment} {text : String}
    (glue : placeholders text = 0) (consists : statement.ConsistsOf pieces) :
    (ofText text ++ statement).ConsistsOf pieces := by
  cases consists with
  | glue start start_glue =>
      exact ConsistsOf.glue (text ++ start) (by simp [glue, start_glue])
  | piece start part start_glue balanced rest =>
      have joined := ConsistsOf.piece (text ++ start) part (by simp [glue, start_glue])
        balanced rest
      simpa only [ofText_append, Fragment.append_assoc] using joined

theorem append {left right : Fragment} {leftPieces rightPieces : List Fragment}
    (leftConsists : left.ConsistsOf leftPieces) (rightConsists : right.ConsistsOf rightPieces) :
    (left ++ right).ConsistsOf (leftPieces ++ rightPieces) := by
  induction leftConsists with
  | glue text glue => exact glue_append glue rightConsists
  | piece text part glue balanced _ induction =>
      rw [Fragment.append_assoc]
      exact .piece text part glue balanced induction

theorem append_glue {statement : Fragment} {pieces : List Fragment} {text : String}
    (consists : statement.ConsistsOf pieces) (glue : placeholders text = 0) :
    (statement ++ ofText text).ConsistsOf pieces := by
  simpa using consists.append (.glue text glue)

theorem wrap {statement : Fragment} {pieces : List Fragment} {before after : String}
    (consists : statement.ConsistsOf pieces) (before_glue : placeholders before = 0)
    (after_glue : placeholders after = 0) :
    (statement.wrap before after).ConsistsOf pieces :=
  (glue_append before_glue consists).append_glue after_glue

/-- Joined parts consist of the pieces of all of them. -/
theorem join {α : Type} {separator : String} (glue : placeholders separator = 0)
    {part : α → Fragment} {pieces : α → List Fragment} {items : List α}
    (each : ∀ item ∈ items, (part item).ConsistsOf (pieces item)) :
    (Fragment.join separator (items.map part)).ConsistsOf (items.flatMap pieces) := by
  induction items with
  | nil => exact .glue "" rfl
  | cons item items induction =>
      have first := each item (by simp)
      have others := induction fun other member => each other (by simp [member])
      -- A separator stands before every item but the first.
      cases items with
      | nil => simpa [Fragment.join] using first
      | cons next items => exact (first.append_glue glue).append others

theorem params_eq {statement : Fragment} {pieces : List Fragment}
    (consists : statement.ConsistsOf pieces) :
    statement.params = pieces.flatMap (·.params) := by
  induction consists with
  | glue => rfl
  | piece text part _ _ _ induction => simp [induction]

/-- All values and all placeholders of a statement are those of its pieces. -/
theorem balanced {statement : Fragment} {pieces : List Fragment}
    (consists : statement.ConsistsOf pieces) : statement.Balanced := by
  rw [Balanced]
  induction consists with
  | glue text glue => simpa using glue
  | piece text part glue balanced _ induction =>
      rw [Balanced] at balanced
      simp [glue, induction, balanced]

theorem split {statement : Fragment} {before after : List Fragment}
    (consists : statement.ConsistsOf (before ++ after)) :
    ∃ left right : Fragment,
      statement = left ++ right ∧ left.ConsistsOf before ∧ right.ConsistsOf after := by
  induction before generalizing statement with
  | nil => exact ⟨ofText "", statement, by simp, .glue "" rfl, consists⟩
  | cons first before induction =>
      cases consists with
      | piece text _ glue balanced rest =>
          obtain ⟨left, right, rfl, leftConsists, rightConsists⟩ := induction rest
          exact ⟨ofText text ++ first ++ left, right, by simp [Fragment.append_assoc],
            .piece text first glue balanced leftConsists, rightConsists⟩

/-- The placeholders of a piece come right behind those of the pieces before it. -/
theorem place {statement piece : Fragment} {before after : List Fragment}
    (consists : statement.ConsistsOf (before ++ piece :: after)) :
    ∃ left right, statement.sql = left ++ piece.sql ++ right ∧
      placeholders left = (before.flatMap (·.params)).length ∧
      placeholders piece.sql = piece.params.length ∧
      placeholders right = (after.flatMap (·.params)).length := by
  obtain ⟨left, right, rfl, leftConsists, rightConsists⟩ := consists.split
  cases rightConsists with
  | @piece text _ rest _ glue balanced restConsists =>
      refine ⟨left.sql ++ text, rest.sql, by simp [String.append_assoc], ?_, balanced, ?_⟩
      · rw [placeholders_append, glue, ← leftConsists.params_eq]
        exact leftConsists.balanced
      · rw [← restConsists.params_eq]
        exact restConsists.balanced

end ConsistsOf

/-- Read from left to right, the values of a statement belong to the placeholders of the pieces
that brought them. -/
structure BindsInOrder (statement : Fragment) (pieces : List Fragment) : Prop where
  /-- The pieces stand one after another in the text. -/
  consistsOf : statement.ConsistsOf pieces
  /-- The values are those of the pieces, in the same order. -/
  params_eq : statement.params = pieces.flatMap (·.params)
  /-- There are as many placeholders as values. -/
  balanced : statement.Balanced
  /-- A piece's placeholders and its values are counted from the same number on. -/
  place : ∀ before piece after, pieces = before ++ piece :: after →
    ∃ left right, statement.sql = left ++ piece.sql ++ right ∧
      placeholders left = (before.flatMap (·.params)).length ∧
      placeholders piece.sql = piece.params.length ∧
      placeholders right = (after.flatMap (·.params)).length

theorem ConsistsOf.bindsInOrder {statement : Fragment} {pieces : List Fragment}
    (consists : statement.ConsistsOf pieces) : statement.BindsInOrder pieces where
  consistsOf := consists
  params_eq := consists.params_eq
  balanced := consists.balanced
  place := by
    rintro before piece after rfl
    exact consists.place

end Fragment

end EntitySearch
