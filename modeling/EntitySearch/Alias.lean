import EntitySearch.Text.Numeral
import EntitySearch.Text.Substring

/-!
# Generated names

Names for derived tables and computed columns must not stand anywhere in the statement they are
added to.  The first candidate is a seed; the others are the seed with a number behind it, counted
from zero.
-/

namespace EntitySearch.Alias

/-- The seed of derived tables. -/
def tableSeed : String := "tbl_"

/-- What the seeds of computed columns start with. -/
def columnStart : String := "col_"

/-- The candidates of a seed: the seed itself, then the seed with the numbers from zero on. -/
def candidate (seed : String) : Nat → String
  | 0 => seed
  | index + 1 => seed ++ String.ofList (Text.numeral index)

/-- The first candidate from an index on that does not stand in the text, looked for a limited
number of times. -/
def firstFree (seed text : String) : Nat → Nat → String
  | 0, index => candidate seed index
  | tries + 1, index =>
      if Text.occursIn (candidate seed index) text then firstFree seed text tries (index + 1)
      else candidate seed index

/-- How many candidates are tried.  Candidates of one length that stand in the text do so at
different places, so a text of `n` characters holds at most `n + 1` of each length, and fewer than
this many altogether. -/
def tries (text : String) : Nat :=
  let places := text.length + 2
  places * places

/-- The first candidate of the seed that does not stand in the text. -/
def allocate (seed text : String) : String := firstFree seed text (tries text) 0

/-- A name for a computed column. -/
def column (name text : String) : String := allocate (columnStart ++ name) text

/-- A name for a derived table. -/
def table (text : String) : String := allocate tableSeed text

/-- The text after names have been added to it, which no later name may repeat. -/
def claim (text : String) (names : List String) : String :=
  names.foldl (fun text name => text ++ " " ++ name) text

/-- Names for computed columns, one after another, each unlike the text and the names before. -/
def columns (text : String) : List String → List String
  | [] => []
  | name :: names =>
      let allocated := column name text
      allocated :: columns (claim text [allocated]) names

theorem firstFree_eq_candidate (seed text : String) (tries index : Nat) :
    ∃ last, firstFree seed text tries index = candidate seed last ∧
      ∀ earlier, index ≤ earlier → earlier < last →
        Text.occursIn (candidate seed earlier) text = true := by
  fun_induction firstFree seed text tries index with
  | case1 index => exact ⟨index, rfl, fun earlier _ _ => by omega⟩
  | case2 tries index taken ih =>
      obtain ⟨last, same, before⟩ := ih
      refine ⟨last, same, fun earlier from_index to_last => ?_⟩
      by_cases first : earlier = index
      · rw [first]
        exact taken
      · exact before earlier (by omega) to_last
  | case3 tries index free => exact ⟨index, rfl, fun earlier _ _ => by omega⟩

@[simp]
theorem columns_length (text : String) (names : List String) :
    (columns text names).length = names.length := by
  induction names generalizing text with
  | nil => rfl
  | cons name names ih => simp [columns, ih]

end EntitySearch.Alias
