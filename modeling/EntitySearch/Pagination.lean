import EntitySearch.Search

/-!
# Pagination

A request names a position in the list and a size.  The position is either the number of a page or
the offset of a row, and both are counted from a configured start.
-/

namespace EntitySearch

/-- What the position of a request counts. -/
inductive PaginationKind where
  /-- Pages of the requested size. -/
  | page
  /-- Rows. -/
  | offset
  deriving DecidableEq, Repr

namespace PaginationKind

/-- The name of the kind. -/
def name : PaginationKind → String
  | page => "page"
  | offset => "offset"

/-- The kind with a name, in any case of its letters, or the error that there is none.  Folding
ASCII letters is enough, as no other character has a lower case that is made of letters of these
names. -/
def ofName (name : String) : Except SearchError PaginationKind :=
  if Text.equalsIgnoringCase page.name name then .ok page
  else if Text.equalsIgnoringCase offset.name name then .ok offset
  else .error (.unknownPagination name)

end PaginationKind

/-- How the position and the size of a request are understood. -/
structure Pagination where
  /-- What the position counts. -/
  kind : PaginationKind := .page
  /-- The position of the first row. -/
  start : UInt64 := 0
  /-- The greatest size that is granted. -/
  maxAllowedSize : UInt64 := 100
  /-- The size of a request that names none. -/
  defaultSize : UInt64 := 15
  deriving DecidableEq, Repr

namespace Pagination

/-- The size that is granted to a request. -/
def grantedSize (pagination : Pagination) (size? : Option UInt64) : UInt64 :=
  min (size?.getD pagination.defaultSize) pagination.maxAllowedSize

/-- How far a position lies behind the start; positions before the start count as the start. -/
def distance (pagination : Pagination) (position? : Option UInt64) : UInt64 :=
  UInt64.ofNatClamp ((position?.getD pagination.start).toNat - pagination.start.toNat)

/-- The page that a request names.  An offset beyond the greatest number becomes that one. -/
def page (pagination : Pagination) (position? size? : Option UInt64) : Page :=
  let size := pagination.grantedSize size?
  let distance := pagination.distance position?
  match pagination.kind with
  | .page => { offset := UInt64.ofNatClamp (distance.toNat * size.toNat), max? := some size }
  | .offset => { offset := distance, max? := some size }

end Pagination

end EntitySearch
