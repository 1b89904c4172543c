import EntitySearch.Entity.FieldType
import EntitySearch.Json.Document
import EntitySearch.Json.Record
import EntitySearch.Pagination
import EntitySearch.Resolution

/-!
# JSON forms

How the parts of a search are read from JSON and written to it.
-/

namespace EntitySearch

open Json

namespace Value

/-- The value of a number; integers beyond 64 bits with a sign are doubles. -/
def ofNumber : Number → Value
  | .integer number =>
      if Int64.minValue.toInt ≤ number ∧ number ≤ Int64.maxValue.toInt then
        integer (Int64.ofInt number)
      else double (Double.ofInt number)
  | .double number => double number

/-- Reads any JSON: a value, or nothing if it is an array or an object, whose elements and members
are read by `element`. -/
def readLevel (element : Reader (Option Value)) : Reader (Option Value) := do
  match ← Reader.peek with
  | '[' =>
      Reader.array (fun _ => do let _ ← element) ()
      return none
  | '\x7b' =>
      Reader.object (fun _ _ => do Reader.mark ':'; let _ ← element) ()
      return none
  | _ =>
      match ← Reader.found with
      | .null => return some null
      | .boolean value => return some (boolean value)
      | .integer value => return some (ofNumber (.integer value))
      | .double value => return some (double value)
      | .text value => return some (text value)
      | .sequence | .map => return none

/-- Reads any JSON with at most so many levels of arrays and objects. -/
def readScalar : Nat → Reader (Option Value)
  | 0 => readLevel (Reader.fail .malformed)
  | levels + 1 => readLevel (readScalar levels)

/-- Reads a value, which is neither an array nor an object. -/
def read : Reader Value := do
  match ← readScalar Reader.maxDepth with
  | some value => return value
  | none => Reader.failWith (.noVariant "SqlValue")

/-- The value in JSON. -/
def document : Value → Document
  | null => .null
  | boolean value => .boolean value
  | integer value => .integer value.toInt
  | double value => .double value
  | text value => .text value
  | timestamp value => .text value.isoText

end Value

namespace Operator

/-- Reads an operator by its name. -/
def read : Reader Operator := Reader.variant (all.map fun operator => (operator.name, operator))

/-- The operator in JSON. -/
def document (operator : Operator) : Document := .text operator.name

end Operator

namespace FieldType

/-- Reads a type by one of its names. -/
def read : Reader FieldType := do
  let name ← Reader.text
  match ofName? name with
  | some type => return type
  | none => Reader.failWith (.unreadable (unknownMessage name))

/-- The type in JSON. -/
def document (type : FieldType) : Document := .text type.name

end FieldType

namespace Direction

/-- Reads a direction. -/
def read : Reader Direction :=
  Reader.variant [(ascending.name, ascending), (descending.name, descending)]

/-- The direction in JSON. -/
def document (direction : Direction) : Document := .text direction.name

end Direction

namespace PaginationKind

/-- Reads a kind of pagination. -/
def read : Reader PaginationKind := Reader.variant [(page.name, page), (offset.name, offset)]

/-- The kind in JSON. -/
def document (kind : PaginationKind) : Document := .text kind.name

end PaginationKind

namespace Fetch

/-- How it is read what to fetch. -/
def record : Record Fetch where
  typeName := "FetchType"
  blank := {}
  fields :=
    [ ⟨"list", .required, fun fetch => do return { fetch with list := ← Reader.boolean }⟩,
      ⟨"total", .required, fun fetch => do return { fetch with total := ← Reader.boolean }⟩,
      ⟨"summary_fields", .defaulted, fun fetch => do
        return { fetch with summaryFields := ← Reader.list Reader.text }⟩]

/-- What to fetch, in JSON. -/
def document (fetch : Fetch) : Document :=
  .object
    [("list", .boolean fetch.list), ("total", .boolean fetch.total),
      ("summary_fields", .texts fetch.summaryFields)]

end Fetch

namespace Order

/-- How an order is read. -/
def record : Record Order where
  typeName := "OrderParam"
  blank := { field := "" }
  fields :=
    [ ⟨"sort", .required, fun order => do return { order with field := ← Reader.text }⟩,
      ⟨"order", .optional, fun order => do
        return { order with direction? := ← Reader.optional Direction.read }⟩]

/-- The order in JSON. -/
def document (order : Order) : Document :=
  .object
    [("sort", .text order.field), ("order", .ofOption Direction.document order.direction?)]

end Order

namespace Page

/-- How a page is read. -/
def record : Record Page where
  typeName := "PageParam"
  blank := {}
  fields :=
    [ ⟨"offset", .required, fun page => do return { page with offset := ← Reader.natural }⟩,
      ⟨"max", .optional, fun page => do
        return { page with max? := ← Reader.optional Reader.natural }⟩]

/-- The page in JSON. -/
def document (page : Page) : Document :=
  .object
    [("offset", .integer page.offset.toNat),
      ("max", .ofOption (fun max : UInt64 => .integer max.toNat) page.max?)]

end Page

namespace Resolution

/-- The statements in JSON, with a member for every part of each. -/
def document (resolution : Resolution) : Document :=
  let listed := resolution.list?
  let cluster := resolution.cluster?
  let params (statement? : Option Fragment) : Document :=
    .list (((statement?.map (·.params)).getD []).map Value.document)
  .object
    [("list_sql", .ofOption (fun list => .text list.statement.sql) listed),
      ("list_params", params (listed.map (·.statement))),
      ("list_aliases", .texts ((listed.map (·.labels)).getD [])),
      ("cluster_sql", .ofOption (fun cluster => .text cluster.statement.sql) cluster),
      ("cluster_params", params (cluster.map (·.statement))),
      ("count_alias", .ofOption .text (cluster.bind (·.countName?))),
      ("summary_aliases", .texts ((cluster.map (·.sumNames)).getD [])),
      ("should_query_list", .boolean listed.isSome),
      ("should_query_cluster", .boolean cluster.isSome)]

end Resolution

end EntitySearch
