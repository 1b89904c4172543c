import EntitySearch.Bindings
import EntitySearch.Fragment
import EntitySearch.Text.Substring

/-!
# Snippets

A snippet is a text of an entity with embedded parameters.  A colon and a name bind a value to a
placeholder; a colon, a name and another colon put the value's text into the statement.  A colon
right behind a colon starts no parameter, so casts stay as they are, and a closing colon must not
be followed by another one.

A snippet is resolved in two stages: its template has a placeholder for every bound parameter and
keeps the markers of the literal ones, and then the markers of each literal name in turn are
replaced throughout the text.
-/

namespace EntitySearch

/-- How a parameter reaches the statement. -/
inductive MarkerKind where
  /-- Its value is bound to a placeholder. -/
  | bound
  /-- Its value's text becomes part of the statement. -/
  | literal
  deriving DecidableEq, Repr

/-- A parameter embedded in a snippet. -/
structure Marker where
  /-- The name of the parameter. -/
  name : String
  /-- How the parameter reaches the statement. -/
  kind : MarkerKind
  deriving DecidableEq, Repr

namespace Marker

/-- The name between two colons. -/
def text (marker : Marker) : String := ":" ++ marker.name ++ ":"

end Marker

/-- A piece of a snippet's text. -/
inductive SnippetPiece where
  /-- A character that belongs to no parameter. -/
  | plain (char : Char)
  /-- A parameter. -/
  | marker (marker : Marker)
  deriving DecidableEq, Repr

namespace SnippetPiece

/-- The piece in the template. -/
def template : SnippetPiece → List Char
  | plain char => [char]
  | marker ⟨_, .bound⟩ => ['?']
  | marker ⟨name, .literal⟩ => ':' :: name.toList ++ [':']

/-- The piece as it was written. -/
def source : SnippetPiece → List Char
  | plain char => [char]
  | marker ⟨name, .bound⟩ => ':' :: name.toList
  | marker ⟨name, .literal⟩ => ':' :: name.toList ++ [':']

/-- The parameter of a piece. -/
def marker? : SnippetPiece → Option Marker
  | plain _ => none
  | marker parameter => some parameter

/-- A letter that a parameter's name can start with. -/
def isNameStart (char : Char) : Bool := char.isAlpha || char == '_'

/-- A character that a parameter's name can go on with. -/
def isNameChar (char : Char) : Bool := char.isAlphanum || char == '_'

/-- Cuts a text into pieces; `afterColon` says that a colon stands right before it. -/
def scan (afterColon : Bool) : List Char → List SnippetPiece
  | [] => []
  | char :: rest =>
      if char == ':' && !afterColon && rest.head?.any isNameStart then
        let name := String.ofList (rest.takeWhile isNameChar)
        let behind := rest.dropWhile isNameChar
        if behind.head? == some ':' && behind.tail.head? != some ':' then
          marker ⟨name, .literal⟩ :: scan true behind.tail
        else
          marker ⟨name, .bound⟩ :: scan false behind
      else
        plain char :: scan (char == ':') rest
termination_by text => text.length
decreasing_by
  all_goals
    have shorter := (List.dropWhile_sublist isNameChar (l := rest)).length_le
    simp only [List.length_cons, List.length_tail]
    omega

end SnippetPiece

/-- A text of an entity, cut into plain characters and parameters. -/
structure Snippet where
  /-- The pieces, in the order of the text. -/
  pieces : List SnippetPiece
  deriving DecidableEq, Repr

namespace Snippet

/-- Reads the parameters of a text. -/
def ofText (text : String) : Snippet := ⟨SnippetPiece.scan false text.toList⟩

/-- The text with a placeholder for every bound parameter. -/
def template (snippet : Snippet) : String :=
  String.ofList (snippet.pieces.flatMap SnippetPiece.template)

/-- The list with a parameter at its end, unless that is a literal one that it already holds. -/
def addMarker (markers : List Marker) (marker : Marker) : List Marker :=
  if marker.kind = .literal ∧ marker ∈ markers then markers else markers ++ [marker]

/-- The parameters in the order of the text: bound ones as often as they stand there, literal ones
once. -/
def markers (snippet : Snippet) : List Marker :=
  (snippet.pieces.filterMap SnippetPiece.marker?).foldl addMarker []

/-- The template has nothing but white space. -/
def isBlank (snippet : Snippet) : Bool := Text.isBlank snippet.template

/-- The value of a parameter joins the fragment: a bound one among the values, a literal one in
place of all of its markers.  A parameter without a value is null. -/
def resolveMarker (bindings : Bindings) (fragment : Fragment) (marker : Marker) : Fragment :=
  let value := (bindings.get? marker.name).getD .null
  match marker.kind with
  | .bound => { fragment with params := fragment.params ++ [value] }
  | .literal =>
      { fragment with
        sql := String.ofList
          (Text.replaceAll marker.text.toList value.literal.toList fragment.sql.toList) }

/-- The snippet with the values of its parameters. -/
def resolve (snippet : Snippet) (bindings : Bindings) : Fragment :=
  snippet.markers.foldl (resolveMarker bindings) (Fragment.ofText snippet.template)

/-- The text that was read, put together again from its pieces. -/
theorem source_scan (afterColon : Bool) (text : List Char) :
    (SnippetPiece.scan afterColon text).flatMap SnippetPiece.source = text := by
  fun_induction SnippetPiece.scan afterColon text with
  | case1 => rfl
  | case2 afterColon char rest starts name behind closed ih =>
      obtain ⟨tail, split⟩ : ∃ tail, behind = ':' :: tail := by
        cases split : behind with
        | nil => simp [split] at closed
        | cons head tail =>
            simp only [split, List.head?_cons, Bool.and_eq_true, beq_iff_eq,
              Option.some.injEq] at closed
            exact ⟨tail, by rw [closed.1]⟩
      have colon : char = ':' := by
        simp only [Bool.and_eq_true, beq_iff_eq] at starts
        exact starts.1.1
      have whole : rest.takeWhile SnippetPiece.isNameChar ++ behind = rest :=
        List.takeWhile_append_dropWhile
      rw [List.flatMap_cons, ih, split, List.tail_cons]
      rw [split] at whole
      simp [SnippetPiece.source, colon, name, whole]
  | case3 afterColon char rest starts name behind closed ih =>
      have colon : char = ':' := by
        simp only [Bool.and_eq_true, beq_iff_eq] at starts
        exact starts.1.1
      have whole : rest.takeWhile SnippetPiece.isNameChar ++ behind = rest :=
        List.takeWhile_append_dropWhile
      rw [List.flatMap_cons, ih]
      simp [SnippetPiece.source, colon, name, whole]
  | case4 afterColon char rest starts ih => simp [SnippetPiece.source, ih]

end Snippet

end EntitySearch
