import EntitySearch.Resolution

/-!
# How a resolution is assembled

A search either has an error, which its filters and its summed fields alone decide, or it has
statements.  The rows of both statements are made of the same clauses, and a page adds one clause
behind the listing statement.
-/

namespace EntitySearch

namespace Fragment

@[ext]
theorem ext {left right : Fragment} (sql : left.sql = right.sql)
    (params : left.params = right.params) : left = right := by
  cases left
  cases right
  simp_all

theorem ofText_append (left right : String) :
    ofText (left ++ right) = ofText left ++ ofText right :=
  rfl

@[simp]
theorem ofText_empty_append (part : Fragment) : ofText "" ++ part = part := by
  ext <;> simp

@[simp]
theorem append_ofText_empty (part : Fragment) : part ++ ofText "" = part := by
  ext <;> simp

theorem sql_join (separator : String) (parts : List Fragment) :
    (join separator parts).sql = String.intercalate separator (parts.map (·.sql)) := by
  fun_induction join separator parts with
  | case1 => rfl
  | case2 part => simp
  | case3 part next parts ih => simp [ih, String.intercalate_cons_cons, String.append_assoc]

theorem join_eq (separator : String) (parts : List Fragment) :
    join separator parts =
      ⟨String.intercalate separator (parts.map (·.sql)), parts.flatMap (·.params)⟩ :=
  ext (sql_join separator parts) (params_join separator parts)

theorem wrap_eq (before : String) (part : Fragment) (after : String) :
    part.wrap before after = ⟨before ++ part.sql ++ after, part.params⟩ :=
  ext rfl (params_wrap before part after)

end Fragment

/-- The error if there is one, and the result otherwise. -/
def errorOr {ε α : Type} (error? : Option ε) (result : α) : Except ε α :=
  match error? with
  | some error => .error error
  | none => .ok result

theorem errorOr_eq_ok_iff {ε α : Type} {error? : Option ε} {result other : α} :
    errorOr error? result = .ok other ↔ error? = none ∧ other = result := by
  cases error? with
  | some error => simp [errorOr]
  | none => simpa [errorOr] using eq_comm

theorem errorOr_eq_error_iff {ε α : Type} {error? : Option ε} {result : α} {error : ε} :
    errorOr error? result = .error error ↔ error? = some error := by
  cases error? <;> simp [errorOr]

/-- Going through a list stops at the first error. -/
theorem mapM_errorOr {α β ε : Type} (error? : α → Option ε) (result : α → β) (items : List α) :
    (items.mapM fun item => errorOr (error? item) (result item)) =
      errorOr (items.findSome? error?) (items.map result) := by
  induction items with
  | nil => rfl
  | cons item items induction =>
      rw [List.mapM_cons, List.findSome?_cons, induction]
      cases error? item with
      | some error => rfl
      | none => cases items.findSome? error? <;> rfl

namespace Dialect

/-- What the dialect puts in front of a statement to cut out a page. -/
def pageOpening (dialect : Dialect) (page : Page) : String :=
  match page.max?, dialect with
  | some _, oracle => "select * from (select row_.*, rownum rownum_ from ("
  | _, _ => ""

/-- The clause behind a statement that cuts out a page, with the values of the page. -/
def pageClause? (dialect : Dialect) (page : Page) : Option Fragment :=
  page.max?.map fun max =>
    let offset := Value.count page.offset
    let rows := Value.count max
    match dialect with
    | mysql => ⟨" limit ?, ?", [offset, rows]⟩
    | postgresql | sqlite => ⟨" limit ? offset ?", [rows, offset]⟩
    | sqlserver => ⟨" offset ? rows fetch next ? rows only", [offset, rows]⟩
    | oracle =>
        ⟨") row_ where rownum <= ?) table_ where table_.rownum_ > ?",
          [Value.count (saturatingAdd page.offset max), offset]⟩

theorem paginate_eq (dialect : Dialect) (page : Page) (statement : Fragment) :
    dialect.paginate page statement =
      .ofText (dialect.pageOpening page) ++ statement ++
        (dialect.pageClause? page).getD (.ofText "") := by
  obtain ⟨offset, _ | max⟩ := page
  · simp [paginate, pageOpening, pageClause?]
  · cases dialect <;> simp [paginate, pageOpening, pageClause?]

end Dialect

namespace Entity

/-- The snippets of an entity that its statements resolve. -/
def snippets (entity : Entity) : List Snippet :=
  entity.selections.map (·.2) ++ entity.table ::
    (entity.joinCondition?.toList ++ entity.grouping?.toList)

theorem mem_of_field? {entity : Entity} {name : String} {field : Field}
    (found : entity.field? name = some field) :
    field ∈ entity.fields.toList ∧ field.name = name :=
  ⟨List.mem_of_find?_eq_some found, by simpa using List.find?_some found⟩

theorem mem_of_selections {entity : Entity} {selection : Field × Snippet}
    (selected : selection ∈ entity.selections) :
    selection.1 ∈ entity.fields.toList ∧ selection.1.select? = some selection.2 := by
  obtain ⟨field, member, found⟩ := List.mem_filterMap.mp selected
  obtain ⟨snippet, selects, rfl⟩ := Option.map_eq_some_iff.mp found
  exact ⟨member, selects⟩

theorem mem_snippets_of_selections {entity : Entity} {selection : Field × Snippet}
    (selected : selection ∈ entity.selections) : selection.2 ∈ entity.snippets :=
  List.mem_append_left _ (List.mem_map_of_mem selected)

theorem table_mem_snippets (entity : Entity) : entity.table ∈ entity.snippets := by
  simp [snippets]

theorem mem_snippets_of_joinCondition? {entity : Entity} {snippet : Snippet}
    (present : entity.joinCondition? = some snippet) : snippet ∈ entity.snippets := by
  simp [snippets, present]

theorem mem_snippets_of_grouping? {entity : Entity} {snippet : Snippet}
    (present : entity.grouping? = some snippet) : snippet ∈ entity.snippets := by
  simp [snippets, present]

end Entity

namespace AggregateNames

/-- The count and the sums over some expressions. -/
def selected (names : AggregateNames) (summands : List String) : String :=
  String.intercalate ", " (names.countExpressions ++ names.sumExpressions summands)

/-- What is selected of every group: the sums, or the count when nothing is summed. -/
def selectedOfGroup (names : AggregateNames) (summands : List String) : String :=
  String.intercalate ", "
    (if (names.sumExpressions summands).isEmpty then names.countExpressions
    else names.sumExpressions summands)

end AggregateNames

namespace ClusterStatement

/-- The count and the sums over the rows of a derived table. -/
def overTable (fetch : Fetch) (columns : List String) (table : Fragment) : ClusterStatement :=
  let names := AggregateNames.allocate table.sql fetch
  ⟨table.wrap ("select " ++ names.selected columns ++ " from (") (") " ++ names.table),
    names.count?, names.sums⟩

/-- The count and the sums over the rows behind a select clause. -/
def overRows (fetch : Fetch) (columns : List String) (rows : Fragment) : ClusterStatement :=
  let names := AggregateNames.allocate rows.sql fetch
  ⟨.ofText ("select " ++ names.selected columns) ++ rows, names.count?, names.sums⟩

/-- The number of groups behind a select clause and the sums over the sums of the groups. -/
def overGroups (fetch : Fetch) (columns : List String) (rows : Fragment) : ClusterStatement :=
  let names := AggregateNames.allocate rows.sql fetch
  ⟨rows.wrap
      ("select " ++ names.selected names.sums ++ " from (select " ++ names.selectedOfGroup columns)
      (") " ++ names.table),
    names.count?, names.sums⟩

end ClusterStatement

namespace Resolver

/-- The error of a filter on a field without a column. -/
def filterError? (entity : Entity) (filter : Filter) : Option SearchError :=
  if (entity.column? filter.field).isSome then none else some (.unmappedFilterField filter.field)

/-- The error of a sum over a field without a column. -/
def summaryError? (entity : Entity) (name : String) : Option SearchError :=
  if (entity.column? name).isSome then none else some (.unmappedSummaryField name)

/-- The first error of a search; filters are looked at before sums. -/
def searchError? (entity : Entity) (search : Search) : Option SearchError :=
  search.filters.findSome? (filterError? entity) <|>
    search.fetch.summaryFields.findSome? (summaryError? entity)

/-- The condition of a filter, if its field has a column and the filter restricts something. -/
def filterCondition (resolver : Resolver) (entity : Entity) (filter : Filter) : Option Fragment :=
  (entity.field? filter.field).bind fun field =>
    field.column?.bind fun column =>
      filter.condition? field.type column resolver.dialect resolver.correction

/-- The conditions of the filters that restrict something. -/
def filterConditions (resolver : Resolver) (entity : Entity) (filters : List Filter) :
    List Fragment :=
  filters.filterMap (resolver.filterCondition entity)

/-- The clause of some conditions: their texts with `and` between them, and the values of one after
those of the other.  Without conditions there is no clause. -/
def restrictingTo (conditions : List Fragment) : Fragment :=
  if conditions = [] then ⟨"", []⟩
  else
    ⟨" where " ++ String.intercalate " and " (conditions.map (·.sql)),
      conditions.flatMap (·.params)⟩

/-- The rows of a search behind the select clause. -/
def fromWhere (resolver : Resolver) (entity : Entity) (search : Search) : Fragment :=
  fromClause entity search.bindings ++
    whereClause (joinConditions entity search.bindings ++
      resolver.filterConditions entity search.filters) ++
    groupClause entity search.bindings

/-- The rows that a search lists, before they are sorted and cut down to a page. -/
def listedRows (resolver : Resolver) (entity : Entity) (search : Search) : Fragment :=
  selectClause entity search.bindings ++ resolver.fromWhere entity search

/-- The rows that a search aggregates: with their select clause when equal ones count once. -/
def aggregatedRows (resolver : Resolver) (entity : Entity) (search : Search) : Fragment :=
  if entity.distinct then resolver.listedRows entity search else resolver.fromWhere entity search

/-- The statements of a search without errors. -/
def statements (resolver : Resolver) (entity : Entity) (search : Search) : Resolution where
  list? :=
    if search.fetch.list then
      some (resolver.listStatement entity search (resolver.listedRows entity search))
    else none
  cluster? :=
    if search.fetch.aggregates then
      some (clusterStatement entity search.fetch
        (search.fetch.summaryFields.filterMap entity.column?)
        (resolver.aggregatedRows entity search))
    else none

theorem filterCondition?_eq (resolver : Resolver) (entity : Entity) (filter : Filter) :
    resolver.filterCondition? entity filter =
      errorOr (filterError? entity filter) (resolver.filterCondition entity filter) := by
  rw [filterCondition?, filterError?, filterCondition, Entity.column?]
  cases entity.field? filter.field with
  | none => rfl
  | some field => cases column : field.column? <;> simp [column, errorOr]

theorem conditions_eq (resolver : Resolver) (entity : Entity) (search : Search) :
    resolver.conditions entity search =
      errorOr (search.filters.findSome? (filterError? entity))
        (joinConditions entity search.bindings ++
          resolver.filterConditions entity search.filters) := by
  rw [conditions, funext (resolver.filterCondition?_eq entity), mapM_errorOr]
  cases search.filters.findSome? (filterError? entity) with
  | some error => rfl
  | none =>
      simp [errorOr, bind, Except.bind, pure, Except.pure, filterConditions, List.filterMap_map]

theorem summaryColumns_eq (entity : Entity) (fields : List String) :
    summaryColumns entity fields =
      errorOr (fields.findSome? (summaryError? entity)) (fields.filterMap entity.column?) := by
  induction fields with
  | nil => rfl
  | cons name fields induction =>
      rw [summaryColumns] at induction ⊢
      rw [List.mapM_cons, List.findSome?_cons, induction, summaryError?]
      cases column : entity.column? name with
      | none => rfl
      | some column' =>
          cases fields.findSome? (summaryError? entity) <;> simp [column, errorOr] <;> rfl

theorem whereClause_eq (conditions : List Fragment) :
    whereClause conditions = restrictingTo conditions := by
  cases conditions with
  | nil => rfl
  | cons first conditions =>
      rw [whereClause, restrictingTo, if_neg (List.cons_ne_nil _ _), Fragment.join_eq]
      rfl

theorem list_rows (entity : Entity) (bindings : Bindings) (conditions : List Fragment) :
    (rows entity bindings conditions).list =
      selectClause entity bindings ++
        (fromClause entity bindings ++ whereClause conditions ++ groupClause entity bindings) := by
  cases distinct : entity.distinct <;>
    simp [rows, distinct, StatementPair.both, StatementPair.listOnly, StatementPair.empty,
      Fragment.append_assoc]

theorem cluster_rows (entity : Entity) (bindings : Bindings) (conditions : List Fragment) :
    (rows entity bindings conditions).cluster =
      if entity.distinct then (rows entity bindings conditions).list
      else fromClause entity bindings ++ whereClause conditions ++ groupClause entity bindings := by
  cases distinct : entity.distinct <;>
    simp [rows, distinct, StatementPair.both, StatementPair.listOnly, StatementPair.empty]

/-- The aggregating statement takes one of three shapes. -/
theorem clusterStatement_eq (entity : Entity) (fetch : Fetch) (columns : List String)
    (rows : Fragment) :
    clusterStatement entity fetch columns rows =
      if entity.distinct then .overTable fetch columns rows
      else if entity.grouping?.isSome then .overGroups fetch columns rows
      else .overRows fetch columns rows := by
  rw [clusterStatement]
  split
  · rfl
  · split
    · rfl
    · simp only [Fragment.wrap, Fragment.append_ofText_empty]
      rfl

/-- A search has its first error or else its statements. -/
theorem resolve_eq (resolver : Resolver) (entity : Entity) (search : Search) :
    resolver.resolve entity search =
      errorOr (searchError? entity search) (resolver.statements entity search) := by
  rw [resolve, conditions_eq, searchError?]
  cases search.filters.findSome? (filterError? entity) with
  | some error => rfl
  | none =>
      simp only [errorOr, bind, Except.bind, summaryColumns_eq]
      cases search.fetch.summaryFields.findSome? (summaryError? entity) with
      | some error => rfl
      | none =>
          simp only [pure, Except.pure, cluster_rows, list_rows]
          rfl

theorem resolve_eq_ok_iff {resolver : Resolver} {entity : Entity} {search : Search}
    {resolution : Resolution} :
    resolver.resolve entity search = .ok resolution ↔
      searchError? entity search = none ∧ resolution = resolver.statements entity search := by
  rw [resolve_eq, errorOr_eq_ok_iff]

theorem resolve_eq_error_iff {resolver : Resolver} {entity : Entity} {search : Search}
    {error : SearchError} :
    resolver.resolve entity search = .error error ↔ searchError? entity search = some error := by
  rw [resolve_eq, errorOr_eq_error_iff]

/-- A search has statements exactly when all fields that it filters and sums have columns. -/
theorem searchError?_eq_none_iff {entity : Entity} {search : Search} :
    searchError? entity search = none ↔
      (∀ filter ∈ search.filters, (entity.column? filter.field).isSome) ∧
        ∀ name ∈ search.fetch.summaryFields, (entity.column? name).isSome := by
  simp [searchError?, List.findSome?_eq_none_iff, filterError?, summaryError?,
    Option.isSome_iff_ne_none]

section statements

variable {resolver : Resolver} {entity : Entity} {search : Search}

theorem isSome_list?_statements :
    (resolver.statements entity search).list?.isSome = search.fetch.list := by
  rw [statements]
  cases search.fetch.list <;> rfl

theorem isSome_cluster?_statements :
    (resolver.statements entity search).cluster?.isSome = search.fetch.aggregates := by
  rw [statements]
  cases search.fetch.aggregates <;> rfl

theorem mem_list?_statements {list : ListStatement} :
    list ∈ (resolver.statements entity search).list? ↔
      search.fetch.list = true ∧
        list = resolver.listStatement entity search (resolver.listedRows entity search) := by
  rw [statements, Option.mem_def, Option.ite_none_right_eq_some, Option.some.injEq,
    @eq_comm _ list]

theorem mem_cluster?_statements {cluster : ClusterStatement} :
    cluster ∈ (resolver.statements entity search).cluster? ↔
      search.fetch.aggregates = true ∧
        cluster = clusterStatement entity search.fetch
          (search.fetch.summaryFields.filterMap entity.column?)
          (resolver.aggregatedRows entity search) := by
  rw [statements, Option.mem_def, Option.ite_none_right_eq_some, Option.some.injEq,
    @eq_comm _ cluster]

end statements

end Resolver

/-! ## A specimen

An entity and a search of it that together use every kind of piece that a statement is made of. -/

namespace Specimen

/-- Orders in the table of a year, of which equal rows are listed once. -/
def orders : Entity where
  table := .ofText "orders_:year: o"
  fields :=
    { toList :=
        [.ofMapping "id" (.selected "o.id" .long),
          .ofMapping "title"
            ((FieldMapping.selected "coalesce(o.title, :untitled)" .text).withColumn "o.title"),
          .ofMapping "placed" (.ofColumn "o.placed" .dateTime)]
      names_nodup := by decide
      labels_nodup := by decide }
  joinCondition? := some (.ofText "o.tenant = :tenant")
  grouping? := some (.ofText "o.id, o.title")
  distinct := true
  table_notBlank := by decide +kernel

/-- The third page of ten orders of January with a word in their titles. -/
def search : Search where
  fetch := Fetch.all.withSummary ["id"]
  filters :=
    [{ field := "placed", operator := .between,
        values := [.text "2024-01-01", .text "2024-01-31"] },
      { field := "id", operator := .oneOf },
      { field := "title", operator := .contains, values := [.text "lamp"], ignoreCase := true }]
  order? := some (.ofText "-id")
  page := { offset := 20, max? := some 10 }
  bindings :=
    .ofList [("year", .text "2024"), ("tenant", .integer 7), ("untitled", .text "none")]

/-- The same search with values that read like parts of statements. -/
def intrusiveSearch : Search :=
  { search with
    filters :=
      [{ field := "placed", operator := .between,
          values := [.text "' or 1 = 1 --", .text "?, ?"] },
        { field := "id", operator := .oneOf },
        { field := "title", operator := .contains, values := [.text ":year:"],
          ignoreCase := true }]
    page := { max? := some 0 }
    bindings := .ofList [("year", .integer 2024), ("tenant", .text "7 or true")] }

/-- The same orders, of which every row counts. -/
def everyOrder : Entity := { orders with distinct := false }

theorem searchError?_search : Resolver.searchError? orders search = none := by
  decide +kernel

/-- Every dialect has statements for the search. -/
theorem resolve_search (resolver : Resolver) :
    resolver.resolve orders search = .ok (resolver.statements orders search) :=
  Resolver.resolve_eq_ok_iff.mpr ⟨searchError?_search, rfl⟩

theorem resolve_everyOrder (resolver : Resolver) :
    resolver.resolve everyOrder search = .ok (resolver.statements everyOrder search) :=
  Resolver.resolve_eq_ok_iff.mpr ⟨searchError?_search, rfl⟩

end Specimen

end EntitySearch
