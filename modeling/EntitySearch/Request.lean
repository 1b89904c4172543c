import EntitySearch.Json.Forms

/-!
# Requests

A request is a JSON text that describes an entity and a search of it.  Running a request reads the
text, examines the entity, understands the search and resolves it, and ends at the first step that
fails.
-/

namespace EntitySearch

open Json

/-- A field as a request describes it. -/
structure RequestedField where
  /-- The name of the field. -/
  name : String := ""
  /-- The label of its column. -/
  label? : Option String := none
  /-- Its type. -/
  type : FieldType := .text
  /-- The expression that a list selects. -/
  select? : Option String := none
  /-- The column that filters and sums use. -/
  column? : Option String := none
  deriving DecidableEq, Repr

namespace RequestedField

/-- How a field is read. -/
def record : Record RequestedField where
  typeName := "FieldDef"
  blank := {}
  fields :=
    [ ⟨"name", .required, fun field => do return { field with name := ← Reader.text }⟩,
      ⟨"alias", .defaulted, fun field => do
        return { field with label? := ← Reader.optional Reader.text }⟩,
      ⟨"type", .defaulted, fun field => do return { field with type := ← FieldType.read }⟩,
      ⟨"select", .defaulted, fun field => do
        return { field with select? := ← Reader.optional Reader.text }⟩,
      ⟨"column", .defaulted, fun field => do
        return { field with column? := ← Reader.optional Reader.text }⟩]

/-- How the field is found in the database. -/
def mapping (field : RequestedField) : FieldMapping :=
  let mapped :=
    match field.select? with
    | some expression => FieldMapping.selected expression field.type
    | none => FieldMapping.unmapped field.type
  { mapped with label? := field.label?, column? := field.column? <|> mapped.column? }

end RequestedField

namespace EntityDraft

/-- How a description of an entity is read. -/
def record : Record EntityDraft where
  typeName := "EntityDef"
  blank := { table := "" }
  fields :=
    [ ⟨"table", .required, fun draft => do return { draft with table := ← Reader.text }⟩,
      ⟨"fields", .defaulted, fun draft => do
        let fields ← Reader.list RequestedField.record.read
        return { draft with fields := fields.map fun field => (field.name, field.mapping) }⟩,
      ⟨"join_cond", .defaulted, fun draft => do
        return { draft with joinCondition? := ← Reader.optional Reader.text }⟩,
      ⟨"group_by", .defaulted, fun draft => do
        return { draft with grouping? := ← Reader.optional Reader.text }⟩,
      ⟨"distinct", .defaulted, fun draft => do return { draft with distinct := ← Reader.boolean }⟩]

end EntityDraft

/-- A filter as a request describes it. -/
structure RequestedFilter where
  /-- The name of the field. -/
  field : String := ""
  /-- The name or the code of the operator. -/
  operator : String := Operator.equal.code
  /-- The values. -/
  values : List Value := []
  /-- Upper and lower case count as equal. -/
  ignoreCase : Bool := false
  deriving DecidableEq, Repr

namespace RequestedFilter

/-- How a filter is read. -/
def record : Record RequestedFilter where
  typeName := "FilterDef"
  blank := {}
  fields :=
    [ ⟨"field", .required, fun filter => do return { filter with field := ← Reader.text }⟩,
      ⟨"op", .defaulted, fun filter => do return { filter with operator := ← Reader.text }⟩,
      ⟨"values", .defaulted, fun filter => do
        return { filter with values := ← Reader.list Value.read }⟩,
      ⟨"ignore_case", .defaulted, fun filter => do
        return { filter with ignoreCase := ← Reader.boolean }⟩]

/-- The filter, if its operator is known. -/
def filter (requested : RequestedFilter) : Except SearchError Filter := do
  return {
    field := requested.field
    operator := ← Operator.ofName requested.operator
    values := requested.values
    ignoreCase := requested.ignoreCase }

end RequestedFilter

/-- A search as a request describes it. -/
structure RequestedSearch where
  /-- What is fetched; the list unless the request says otherwise. -/
  fetch : Fetch := Fetch.listOnly
  /-- The filters. -/
  filters : List RequestedFilter := []
  /-- The field that the list is sorted by, with a dash in front for the descending direction. -/
  order? : Option String := none
  /-- The position of the page. -/
  position? : Option UInt64 := none
  /-- The size of the page. -/
  size? : Option UInt64 := none
  /-- The values of the parameters embedded in the entity's texts. -/
  bindings : Bindings := {}
  deriving DecidableEq, Repr

namespace RequestedSearch

/-- How it is read what to fetch. -/
def fetchRecord : Record Fetch where
  typeName := "FetchDef"
  blank := Fetch.listOnly
  fields :=
    [ ⟨"list", .defaulted, fun fetch => do return { fetch with list := ← Reader.boolean }⟩,
      ⟨"total", .defaulted, fun fetch => do return { fetch with total := ← Reader.boolean }⟩,
      ⟨"summary", .defaulted, fun fetch => do
        return { fetch with summaryFields := ← Reader.list Reader.text }⟩]

/-- Reads the values of parameters by name; of two with one name the later one counts. -/
def readBindings : Reader Bindings := do
  if (← Reader.peek) = '\x7b' then
    Reader.object
      (fun name bindings => do
        Reader.mark ':'
        return bindings.insert name (← Value.read))
      {}
  else Reader.failUnless "a map"

/-- How a search is read. -/
def record : Record RequestedSearch where
  typeName := "SearchDef"
  blank := {}
  fields :=
    [ ⟨"fetch", .defaulted, fun search => do return { search with fetch := ← fetchRecord.read }⟩,
      ⟨"filters", .defaulted, fun search => do
        return { search with filters := ← Reader.list RequestedFilter.record.read }⟩,
      ⟨"order", .defaulted, fun search => do
        return { search with order? := ← Reader.optional Reader.text }⟩,
      ⟨"page", .defaulted, fun search => do
        return { search with position? := ← Reader.optional Reader.natural }⟩,
      ⟨"size", .defaulted, fun search => do
        return { search with size? := ← Reader.optional Reader.natural }⟩,
      ⟨"params", .defaulted, fun search => do return { search with bindings := ← readBindings }⟩]

/-- The search, if its operators are known. -/
def search (requested : RequestedSearch) (pagination : Pagination) : Except SearchError Search := do
  return {
    fetch := requested.fetch
    filters := ← requested.filters.mapM RequestedFilter.filter
    order? := requested.order?.map Order.ofText
    page := pagination.page requested.position? requested.size?
    bindings := requested.bindings }

end RequestedSearch

/-- An entity and a search of it, as a request describes them. -/
structure Request where
  /-- The entity. -/
  entity : EntityDraft := { table := "" }
  /-- The search. -/
  search : RequestedSearch := {}
  deriving DecidableEq, Repr

/-- The step of a request that fails. -/
inductive RequestError where
  /-- The entity is refused. -/
  | entity (error : SearchError)
  /-- The search is not understood. -/
  | search (error : SearchError)
  /-- The search cannot be resolved. -/
  | resolution (error : SearchError)
  deriving DecidableEq, Repr

namespace Request

/-- How a request is read. -/
def record : Record Request where
  typeName := "Request"
  blank := {}
  fields :=
    [ ⟨"entity", .required, fun request => do
        return { request with entity := ← EntityDraft.record.read }⟩,
      ⟨"search", .defaulted, fun request => do
        return { request with search := ← RequestedSearch.record.read }⟩]

/-- The request that a JSON text describes. -/
def ofJson (text : String) : Except ReadError Request := Reader.run record.read text

/-- The statements of the request. -/
def run (request : Request) (resolver : Resolver) (pagination : Pagination) :
    Except RequestError Resolution := do
  let entity ← request.entity.build.mapError fun error => .entity (.invalidEntity error)
  let search ← (request.search.search pagination).mapError .search
  (resolver.resolve entity search).mapError .resolution

end Request

end EntitySearch
