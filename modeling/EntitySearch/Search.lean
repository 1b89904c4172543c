import EntitySearch.Bindings
import EntitySearch.Search.Operator

/-!
# Searches

A search says what to fetch of an entity, which filters restrict the rows, how the list is ordered
and which page of it is wanted.  It also binds the parameters embedded in the entity's texts.
-/

namespace EntitySearch

/-- A restriction of one field. -/
structure Filter where
  /-- The name of the field. -/
  field : String
  /-- What is asked of the field's column. -/
  operator : Operator
  /-- The values that the operator uses, each in its own way. -/
  values : List Value := []
  /-- Upper and lower case count as equal. -/
  ignoreCase : Bool := false
  deriving DecidableEq, Repr

/-- What a search fetches. -/
structure Fetch where
  /-- The rows of a page are listed. -/
  list : Bool := false
  /-- All rows are counted. -/
  total : Bool := false
  /-- The fields that are summed over all rows. -/
  summaryFields : List String := []
  deriving DecidableEq, Repr

namespace Fetch

/-- The list and the total. -/
def all : Fetch := { list := true, total := true }

/-- The list without totals. -/
def listOnly : Fetch := { list := true }

/-- The total without the list. -/
def totalOnly : Fetch := { total := true }

/-- The fields are summed as well. -/
def withSummary (fetch : Fetch) (fields : List String) : Fetch :=
  { fetch with summaryFields := fetch.summaryFields ++ fields }

/-- A total or a sum is asked for, so all rows are aggregated. -/
def aggregates (fetch : Fetch) : Bool := fetch.total || !fetch.summaryFields.isEmpty

end Fetch

/-- A direction of sorting. -/
inductive Direction where
  /-- The least value first. -/
  | ascending
  /-- The greatest value first. -/
  | descending
  deriving DecidableEq, Repr

namespace Direction

/-- The word for the direction. -/
def name : Direction → String
  | ascending => "asc"
  | descending => "desc"

end Direction

/-- How a list is sorted. -/
structure Order where
  /-- The name of the field that is sorted by. -/
  field : String
  /-- The direction; the database chooses when absent. -/
  direction? : Option Direction := none
  deriving DecidableEq, Repr

namespace Order

/-- Reads a field's name, with a dash in front of it for the descending direction. -/
def ofText (text : String) : Order :=
  match text.toList with
  | '-' :: field => { field := String.ofList field, direction? := some .descending }
  | _ => { field := text }

end Order

/-- A part of a list: some rows are skipped, and at most so many of the others are taken. -/
structure Page where
  /-- The number of rows that are skipped. -/
  offset : UInt64 := 0
  /-- The greatest number of rows; all that remain when absent. -/
  max? : Option UInt64 := none
  deriving DecidableEq, Repr

/-- A search of an entity. -/
structure Search where
  /-- What is fetched. -/
  fetch : Fetch := {}
  /-- The restrictions, in order. -/
  filters : List Filter := []
  /-- How the list is sorted. -/
  order? : Option Order := none
  /-- Which part of the list is fetched. -/
  page : Page := {}
  /-- The values of the parameters embedded in the entity's texts. -/
  bindings : Bindings := {}
  deriving DecidableEq, Repr

end EntitySearch
