import EntitySearch.Alias
import EntitySearch.Condition
import EntitySearch.Entity

/-!
# Resolution

A search of an entity is resolved to at most two statements: one lists a page of rows, the other
counts all of them and sums some of their fields.  Both statements are assembled side by side from
the same pieces.  The aggregating one takes in the selected expressions only when equal rows are
listed once, because it then has to count the rows of that list.
-/

namespace EntitySearch

/-- The pieces of the two statements that have been put together so far. -/
structure StatementPair where
  /-- The listing statement. -/
  list : Fragment
  /-- The rows that the aggregating statement runs over. -/
  cluster : Fragment
  deriving DecidableEq, Repr

namespace StatementPair

/-- Nothing yet. -/
def empty : StatementPair := ⟨.ofText "", .ofText ""⟩

/-- A piece joins both statements. -/
def both (pair : StatementPair) (piece : Fragment) : StatementPair :=
  ⟨pair.list ++ piece, pair.cluster ++ piece⟩

/-- A piece joins the listing statement alone. -/
def listOnly (pair : StatementPair) (piece : Fragment) : StatementPair :=
  ⟨pair.list ++ piece, pair.cluster⟩

end StatementPair

/-- A statement that lists rows. -/
structure ListStatement where
  /-- The statement with its values. -/
  statement : Fragment
  /-- The labels of its columns. -/
  labels : List String
  deriving DecidableEq, Repr

/-- A statement that counts and sums over all rows. -/
structure ClusterStatement where
  /-- The statement with its values. -/
  statement : Fragment
  /-- The name of the column with the number of rows. -/
  countName? : Option String
  /-- The names of the columns with the sums. -/
  sumNames : List String
  deriving DecidableEq, Repr

/-- The statements of a search. -/
structure Resolution where
  /-- The statement that lists a page, if a list is fetched. -/
  list? : Option ListStatement
  /-- The statement that aggregates all rows, if a total or sums are fetched. -/
  cluster? : Option ClusterStatement
  deriving DecidableEq, Repr

/-- The names that an aggregating statement introduces. -/
structure AggregateNames where
  /-- The name of the count. -/
  count? : Option String
  /-- The names of the sums. -/
  sums : List String
  /-- The name of the table that holds the rows. -/
  table : String
  deriving DecidableEq, Repr

namespace AggregateNames

/-- Names for a count, if it is asked for, for the sums over some fields and for a table.  Each is
unlike the text and the names before it. -/
def allocate (text : String) (fetch : Fetch) : AggregateNames :=
  let count? := if fetch.total then some (Alias.column "count" text) else none
  let withCount := Alias.claim text count?.toList
  let sums := Alias.columns withCount fetch.summaryFields
  ⟨count?, sums, Alias.table (Alias.claim withCount sums)⟩

/-- The count as a selected expression, if it is asked for. -/
def countExpressions (names : AggregateNames) : List String :=
  names.count?.toList.map fun name => "count(*) " ++ name

/-- The sums over some expressions as selected expressions. -/
def sumExpressions (names : AggregateNames) (summands : List String) : List String :=
  List.zipWith (fun summand name => "sum(" ++ summand ++ ") " ++ name) summands names.sums

end AggregateNames

/-- Everything that a statement depends on besides the entity and the search. -/
structure Resolver where
  /-- The dialect of the statements. -/
  dialect : Dialect := .mysql
  /-- How temporal values are corrected. -/
  correction : Correction := .dates
  deriving DecidableEq, Repr

namespace Resolver

/-- The select clause: every selected expression with its label. -/
def selectClause (entity : Entity) (bindings : Bindings) : Fragment :=
  let columns := entity.selections.map fun (field, snippet) =>
    snippet.resolve bindings ++ .ofText (" " ++ field.label)
  .ofText (if entity.distinct then "select distinct " else "select ") ++ Fragment.join ", " columns

/-- The from clause. -/
def fromClause (entity : Entity) (bindings : Bindings) : Fragment :=
  .ofText " from " ++ entity.table.resolve bindings

/-- The join condition in parentheses, if there is one. -/
def joinConditions (entity : Entity) (bindings : Bindings) : List Fragment :=
  entity.joinCondition?.toList.map fun snippet => (snippet.resolve bindings).wrap "(" ")"

/-- The condition of a filter, or the error that its field has no column. -/
def filterCondition? (resolver : Resolver) (entity : Entity) (filter : Filter) :
    Except SearchError (Option Fragment) :=
  match entity.field? filter.field with
  | none => .error (.unmappedFilterField filter.field)
  | some field =>
      match field.column? with
      | none => .error (.unmappedFilterField filter.field)
      | some column =>
          .ok (filter.condition? field.type column resolver.dialect resolver.correction)

/-- The conditions of a search in the order of its filters, with the join condition before them. -/
def conditions (resolver : Resolver) (entity : Entity) (search : Search) :
    Except SearchError (List Fragment) := do
  let filtered ← search.filters.mapM (resolver.filterCondition? entity)
  return joinConditions entity search.bindings ++ filtered.filterMap id

/-- The where clause of some conditions, nothing when there are none. -/
def whereClause (conditions : List Fragment) : Fragment :=
  if conditions.isEmpty then .ofText ""
  else .ofText " where " ++ Fragment.join " and " conditions

/-- The group-by clause, nothing when there is no grouping. -/
def groupClause (entity : Entity) (bindings : Bindings) : Fragment :=
  match entity.grouping? with
  | none => .ofText ""
  | some snippet => .ofText " group by " ++ snippet.resolve bindings

/-- The order-by clause, nothing unless the list is sorted by a selected field. -/
def orderClause (entity : Entity) (order? : Option Order) : Fragment :=
  match order?.bind fun order => (entity.selectedLabel? order.field).map (order, ·) with
  | none => .ofText ""
  | some (order, label) =>
      let direction := order.direction?.elim "" fun direction => " " ++ direction.name
      .ofText (" order by " ++ label ++ direction)

/-- The rows of a search: those that are listed and those that are aggregated. -/
def rows (entity : Entity) (bindings : Bindings) (conditions : List Fragment) : StatementPair :=
  let select := selectClause entity bindings
  let start :=
    if entity.distinct then StatementPair.empty.both select else StatementPair.empty.listOnly select
  ((start.both (fromClause entity bindings)).both (whereClause conditions)).both
    (groupClause entity bindings)

/-- The columns of the fields that are summed, or the error that the first one without a column
has none. -/
def summaryColumns (entity : Entity) (fields : List String) : Except SearchError (List String) :=
  fields.mapM fun name =>
    match entity.column? name with
    | some column => .ok column
    | none => .error (.unmappedSummaryField name)

/-- The aggregating statement over some rows.

Rows that are listed once become a derived table, and so do groups; what remains is aggregated where
it is selected.  Of groups the inner statement sums per group, or counts when nothing is summed, and
the outer one counts the groups and sums the sums. -/
def clusterStatement (entity : Entity) (fetch : Fetch) (columns : List String) (rows : Fragment) :
    ClusterStatement :=
  let names := AggregateNames.allocate rows.sql fetch
  let list (expressions : List String) : String := String.intercalate ", " expressions
  let flat := names.countExpressions ++ names.sumExpressions columns
  let statement :=
    if entity.distinct then
      rows.wrap ("select " ++ list flat ++ " from (") (") " ++ names.table)
    else if entity.grouping?.isSome then
      let sums := names.sumExpressions columns
      let inner := if sums.isEmpty then names.countExpressions else sums
      let outer := names.countExpressions ++ names.sumExpressions names.sums
      rows.wrap ("select " ++ list outer ++ " from (select " ++ list inner)
        (") " ++ names.table)
    else
      rows.wrap ("select " ++ list flat) ""
  ⟨statement, names.count?, names.sums⟩

/-- The listing statement over some rows: sorted, and cut down to a page. -/
def listStatement (resolver : Resolver) (entity : Entity) (search : Search) (rows : Fragment) :
    ListStatement :=
  ⟨resolver.dialect.paginate search.page (rows ++ orderClause entity search.order?),
    entity.labels⟩

/-- The statements of a search.  A filter on a field without a column is an error, and so is a sum
over one; filters are looked at first. -/
def resolve (resolver : Resolver) (entity : Entity) (search : Search) :
    Except SearchError Resolution := do
  let conditions ← resolver.conditions entity search
  let columns ← summaryColumns entity search.fetch.summaryFields
  let rows := rows entity search.bindings conditions
  return {
    list? :=
      if search.fetch.list then some (resolver.listStatement entity search rows.list) else none
    cluster? :=
      if search.fetch.aggregates then
        some (clusterStatement entity search.fetch columns rows.cluster)
      else none }

end Resolver

end EntitySearch
