import EntitySearch.Proofs.Snippet.Resolve
import EntitySearch.Proofs.Assembly

/-!
# The rows that are aggregated

The listing statement sorts the whole list of a search and cuts a page out of it.  The aggregating
statement runs over the rows of that list: over the list itself when equal rows count once, and
otherwise over everything that stands behind its select clause, group by group when there is a
grouping.
-/

namespace EntitySearch

/-- The same search for the whole list in no particular order. -/
def Search.wholeList (search : Search) : Search := { search with order? := none, page := {} }

/-- The values that cut out a page. -/
def Dialect.pageValues (dialect : Dialect) (page : Page) : List Value :=
  (dialect.pageClause? page).elim [] (·.params)

theorem Dialect.params_paginate (dialect : Dialect) (page : Page) (statement : Fragment) :
    (dialect.paginate page statement).params = statement.params ++ dialect.pageValues page := by
  rw [paginate_eq, pageValues]
  cases dialect.pageClause? page <;> simp

namespace Resolver

/-- The values of the selected expressions. -/
def selectValues (entity : Entity) (bindings : Bindings) : List Value :=
  entity.selections.flatMap fun selection => selection.2.boundValues bindings

theorem params_selectClause (entity : Entity) (bindings : Bindings) :
    (selectClause entity bindings).params = selectValues entity bindings := by
  simp [selectClause, selectValues, List.flatMap_map]

/-- The aggregating statement takes in a whole list, with or without its select clause. -/
structure AggregatesList (entity : Entity) (search : Search) (columns : List String)
    (list : Fragment) (cluster : ClusterStatement) : Prop where
  /-- When equal rows count once, the list is a derived table. -/
  ofDistinct : entity.distinct = true →
    cluster = .overTable search.fetch columns list ∧ cluster.statement.params = list.params
  /-- Otherwise the select clause is left out, together with its values. -/
  ofAll : entity.distinct = false →
    ∃ rows, list = selectClause entity search.bindings ++ rows ∧
      (∃ rest, rows.sql = " from " ++ rest) ∧
      (entity.grouping? = none → cluster = .overRows search.fetch columns rows) ∧
      (entity.grouping?.isSome → cluster = .overGroups search.fetch columns rows) ∧
      list.params = selectValues entity search.bindings ++ cluster.statement.params

variable {resolver : Resolver} {entity : Entity} {search : Search}

theorem sql_fromWhere : ∃ rest, (resolver.fromWhere entity search).sql = " from " ++ rest := by
  simp only [fromWhere, fromClause, Fragment.sql_append, Fragment.sql_ofText, String.append_assoc]
  exact ⟨_, rfl⟩

theorem clusterStatement_aggregatesList (columns : List String) :
    AggregatesList entity search columns (resolver.listedRows entity search)
      (clusterStatement entity search.fetch columns (resolver.aggregatedRows entity search)) where
  ofDistinct := by
    intro distinct
    rw [clusterStatement_eq, aggregatedRows, if_pos distinct, if_pos distinct]
    exact ⟨rfl, Fragment.params_wrap _ _ _⟩
  ofAll := by
    intro all
    have notDistinct : ¬entity.distinct = true := by simp [all]
    rw [clusterStatement_eq, aggregatedRows, if_neg notDistinct, if_neg notDistinct]
    refine ⟨resolver.fromWhere entity search, rfl, sql_fromWhere, ?_, ?_, ?_⟩
    · intro ungrouped
      simp [ungrouped]
    · intro grouped
      exact if_pos grouped
    · rw [listedRows, Fragment.params_append, params_selectClause]
      split
      · exact congrArg _ (Fragment.params_wrap _ _ _).symm
      · rfl

theorem listStatement_wholeList (rows : Fragment) :
    resolver.listStatement entity search.wholeList rows = ⟨rows, entity.labels⟩ := by
  change ListStatement.mk (rows ++ .ofText "") entity.labels = _
  rw [Fragment.append_ofText_empty]

/-- The whole list has no clause behind its rows, and its rows are aggregated alike. -/
theorem statements_wholeList (resolver : Resolver) (listed : search.fetch.list = true) :
    resolver.statements entity search.wholeList =
      { list? := some ⟨resolver.listedRows entity search, entity.labels⟩
        cluster? := (resolver.statements entity search).cluster? } := by
  have whole_listed : search.wholeList.fetch.list = true := listed
  rw [statements, if_pos whole_listed, listStatement_wholeList]
  rfl

theorem params_orderClause (order? : Option Order) : (orderClause entity order?).params = [] := by
  rw [orderClause]
  split <;> rfl

theorem summaryColumns_of_accepted (accepted : searchError? entity search = none) :
    summaryColumns entity search.fetch.summaryFields =
      .ok (search.fetch.summaryFields.filterMap entity.column?) := by
  have mapped := (searchError?_eq_none_iff.mp accepted).2
  have no_error : search.fetch.summaryFields.findSome? (summaryError? entity) = none :=
    List.findSome?_eq_none_iff.mpr fun name summed => if_pos (mapped name summed)
  rw [summaryColumns_eq, no_error]
  rfl

/-- A total or a sum is taken over exactly the rows of which the list shows a page. -/
theorem resolve_aggregatesList {resolution : Resolution}
    (resolved : resolver.resolve entity search = .ok resolution)
    (listed : search.fetch.list = true) (aggregated : search.fetch.aggregates = true) :
    ∃ (list whole : ListStatement) (cluster : ClusterStatement) (columns : List String),
      resolution = { list? := some list, cluster? := some cluster } ∧
        resolver.resolve entity search.wholeList =
          .ok { list? := some whole, cluster? := some cluster } ∧
        summaryColumns entity search.fetch.summaryFields = .ok columns ∧
        AggregatesList entity search columns whole.statement cluster ∧
        list.statement = resolver.dialect.paginate search.page
          (whole.statement ++ orderClause entity search.order?) ∧
        list.statement.params =
          whole.statement.params ++ resolver.dialect.pageValues search.page := by
  obtain ⟨accepted, rfl⟩ := resolve_eq_ok_iff.mp resolved
  have whole_accepted : searchError? entity search.wholeList = none := accepted
  have whole := resolve_eq_ok_iff.mpr
    ⟨whole_accepted, (statements_wholeList resolver listed).symm⟩
  simp only [statements, if_pos listed, if_pos aggregated] at whole ⊢
  refine ⟨_, _, _, _, rfl, whole, summaryColumns_of_accepted accepted,
    clusterStatement_aggregatesList _, rfl, ?_⟩
  rw [listStatement, Dialect.params_paginate, Fragment.params_append, params_orderClause,
    List.append_nil]

/-- The specimen lists and aggregates equal rows once. -/
theorem resolve_specimen_aggregatesList :
    Specimen.search.fetch.list = true ∧ Specimen.search.fetch.aggregates = true ∧
      ∃ (list whole : ListStatement) (cluster : ClusterStatement) (columns : List String),
        resolve { dialect := .oracle } Specimen.orders Specimen.search =
            .ok { list? := some list, cluster? := some cluster } ∧
          AggregatesList Specimen.orders Specimen.search columns whole.statement cluster ∧
          list.statement.params =
            whole.statement.params ++ Dialect.oracle.pageValues Specimen.search.page := by
  have resolved := Specimen.resolve_search { dialect := .oracle }
  obtain ⟨list, whole, cluster, columns, same, -, -, aggregates, -, params⟩ :=
    resolve_aggregatesList resolved rfl rfl
  exact ⟨rfl, rfl, list, whole, cluster, columns, resolved.trans (congrArg _ same), aggregates,
    params⟩

end Resolver

end EntitySearch
