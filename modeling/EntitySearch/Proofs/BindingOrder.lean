import EntitySearch.Proofs.BalancedPieces
import EntitySearch.Proofs.Assembly

/-!
# The order of bound values

The listing statement of a search consists of the selected expressions, the table, the join
condition, the conditions of its filters, the grouping and the clause of its page.  The aggregating
one consists of the same pieces without the last, and without the selected expressions unless equal
rows count once.  As long as no text of the entity brings placeholders of its own, the values of
both belong to these pieces in this order.
-/

namespace EntitySearch

/-! ## The pieces of statements -/

namespace Entity

/-- Neither the texts of the entity nor the texts that are spliced into them have placeholders. -/
structure FreeOfPlaceholders (entity : Entity) (bindings : Bindings) : Prop where
  /-- No name, label or column of a field has one. -/
  fields : ∀ field ∈ entity.fields.toList, placeholders field.name = 0 ∧
    placeholders field.label = 0 ∧ ∀ column ∈ field.column?, placeholders column = 0
  /-- No text that a snippet was read from has one. -/
  sources : ∀ snippet ∈ entity.snippets, placeholders snippet.sourceText = 0
  /-- No text of a literal parameter has one. -/
  spliced : ∀ snippet ∈ entity.snippets, ∀ name ∈ snippet.literalNames,
    '?' ∉ bindings.literalText name

namespace FreeOfPlaceholders

variable {entity : Entity} {bindings : Bindings}

theorem balanced_resolve (free : entity.FreeOfPlaceholders bindings) {snippet : Snippet}
    (member : snippet ∈ entity.snippets) : (snippet.resolve bindings).Balanced :=
  Snippet.balanced_resolve (free.sources snippet member) (free.spliced snippet member)

theorem column (free : entity.FreeOfPlaceholders bindings) {name column : String}
    (mapped : entity.column? name = some column) :
    placeholders name = 0 ∧ placeholders column = 0 := by
  obtain ⟨field, found, columnFound⟩ := Option.bind_eq_some_iff.mp mapped
  obtain ⟨member, rfl⟩ := mem_of_field? found
  obtain ⟨name_glue, -, column_glue⟩ := free.fields field member
  exact ⟨name_glue, column_glue column columnFound⟩

end FreeOfPlaceholders

end Entity

namespace Resolver

/-- The selected expressions. -/
def selectPieces (entity : Entity) (bindings : Bindings) : List Fragment :=
  entity.selections.map fun selection => selection.2.resolve bindings

/-- The pieces of the rows behind the select clause: the table, the join condition, the conditions
of the filters that restrict something, and the grouping. -/
def fromWherePieces (resolver : Resolver) (entity : Entity) (search : Search) : List Fragment :=
  entity.table.resolve search.bindings ::
    (entity.joinCondition?.toList.map (·.resolve search.bindings) ++
      resolver.filterConditions entity search.filters ++
      entity.grouping?.toList.map (·.resolve search.bindings))

/-- The pieces of the listing statement. -/
def listingPieces (resolver : Resolver) (entity : Entity) (search : Search) : List Fragment :=
  selectPieces entity search.bindings ++ resolver.fromWherePieces entity search ++
    (resolver.dialect.pageClause? search.page).toList

/-- The pieces of the aggregating statement. -/
def aggregatingPieces (resolver : Resolver) (entity : Entity) (search : Search) : List Fragment :=
  if entity.distinct then
    selectPieces entity search.bindings ++ resolver.fromWherePieces entity search
  else resolver.fromWherePieces entity search

variable {resolver : Resolver} {entity : Entity} {search : Search}

theorem selectClause_consistsOf (free : entity.FreeOfPlaceholders search.bindings) :
    (selectClause entity search.bindings).ConsistsOf (selectPieces entity search.bindings) := by
  have columns : (Fragment.join ", " (entity.selections.map fun selection =>
      selection.2.resolve search.bindings ++ .ofText (" " ++ selection.1.label))).ConsistsOf
        (entity.selections.flatMap fun selection => [selection.2.resolve search.bindings]) := by
    apply Fragment.ConsistsOf.join rfl
    intro selection selected
    have member := Entity.mem_snippets_of_selections selected
    obtain ⟨-, label_glue, -⟩ := free.fields selection.1 (Entity.mem_of_selections selected).1
    refine (Fragment.ConsistsOf.of_balanced (free.balanced_resolve member)).append_glue ?_
    rw [placeholders_append, label_glue]
    rfl
  have opening : placeholders (if entity.distinct then "select distinct " else "select ") = 0 := by
    split <;> rfl
  rw [selectPieces, List.map_eq_flatMap]
  exact Fragment.ConsistsOf.glue_append opening columns

theorem fromClause_consistsOf (free : entity.FreeOfPlaceholders search.bindings) :
    (fromClause entity search.bindings).ConsistsOf [entity.table.resolve search.bindings] := by
  exact Fragment.ConsistsOf.glue_append rfl
    (Fragment.ConsistsOf.of_balanced (free.balanced_resolve entity.table_mem_snippets))

theorem groupClause_consistsOf (free : entity.FreeOfPlaceholders search.bindings) :
    (groupClause entity search.bindings).ConsistsOf
      (entity.grouping?.toList.map (·.resolve search.bindings)) := by
  rw [groupClause]
  cases grouping : entity.grouping? with
  | none => exact .glue "" rfl
  | some snippet =>
      have member := Entity.mem_snippets_of_grouping? grouping
      exact Fragment.ConsistsOf.glue_append rfl
        (Fragment.ConsistsOf.of_balanced (free.balanced_resolve member))

theorem balanced_of_filterConditions (free : entity.FreeOfPlaceholders search.bindings)
    {condition : Fragment}
    (member : condition ∈ resolver.filterConditions entity search.filters) :
    condition.Balanced := by
  obtain ⟨filter, -, compiled⟩ := List.mem_filterMap.mp member
  obtain ⟨field, found, compiled⟩ := Option.bind_eq_some_iff.mp compiled
  obtain ⟨column, mapped, compiled⟩ := Option.bind_eq_some_iff.mp compiled
  have mapped_name : entity.column? filter.field = some column := by
    rw [Entity.column?, found]
    exact mapped
  exact Filter.balanced_condition? (free.column mapped_name).2 compiled

/-- The conditions in the where clause, each with the piece it is made of: the join condition stands
in parentheses. -/
def conditionItems (resolver : Resolver) (entity : Entity) (search : Search) :
    List (Fragment × Fragment) :=
  (entity.joinCondition?.toList.map (·.resolve search.bindings)).map
      (fun piece => (piece.wrap "(" ")", piece)) ++
    (resolver.filterConditions entity search.filters).map (fun piece => (piece, piece))

theorem conditionItems_consistsOf (free : entity.FreeOfPlaceholders search.bindings) :
    ∀ item ∈ resolver.conditionItems entity search, item.1.ConsistsOf [item.2] := by
  intro item member
  rcases List.mem_append.mp member with joins | filters
  · obtain ⟨piece, resolved, rfl⟩ := List.mem_map.mp joins
    obtain ⟨snippet, present, rfl⟩ := List.mem_map.mp resolved
    have known := Entity.mem_snippets_of_joinCondition? (Option.mem_toList.mp present)
    exact (Fragment.ConsistsOf.of_balanced (free.balanced_resolve known)).wrap rfl rfl
  · obtain ⟨piece, condition, rfl⟩ := List.mem_map.mp filters
    exact Fragment.ConsistsOf.of_balanced (balanced_of_filterConditions free condition)

theorem whereClause_consistsOf (resolver : Resolver)
    (free : entity.FreeOfPlaceholders search.bindings) :
    (whereClause (joinConditions entity search.bindings ++
        resolver.filterConditions entity search.filters)).ConsistsOf
      (entity.joinCondition?.toList.map (·.resolve search.bindings) ++
        resolver.filterConditions entity search.filters) := by
  have conditions : joinConditions entity search.bindings ++
      resolver.filterConditions entity search.filters =
        (resolver.conditionItems entity search).map Prod.fst := by
    simp [joinConditions, conditionItems, Function.comp_def]
  have pieces : entity.joinCondition?.toList.map (·.resolve search.bindings) ++
      resolver.filterConditions entity search.filters =
        (resolver.conditionItems entity search).flatMap fun item => [item.2] := by
    rw [← List.map_eq_flatMap]
    simp [conditionItems, Function.comp_def]
  rw [conditions, pieces, whereClause]
  split
  · -- Nothing restricts the rows, and there is no clause.
    rename_i none_given
    rw [List.isEmpty_iff, List.map_eq_nil_iff] at none_given
    rw [none_given]
    exact .glue "" rfl
  · exact Fragment.ConsistsOf.glue_append rfl
      (Fragment.ConsistsOf.join rfl (conditionItems_consistsOf free))

theorem fromWhere_consistsOf (free : entity.FreeOfPlaceholders search.bindings) :
    (resolver.fromWhere entity search).ConsistsOf (resolver.fromWherePieces entity search) := by
  have clauses := ((fromClause_consistsOf free).append
    (whereClause_consistsOf resolver free)).append (groupClause_consistsOf free)
  exact clauses

theorem listedRows_consistsOf (free : entity.FreeOfPlaceholders search.bindings) :
    (resolver.listedRows entity search).ConsistsOf
      (selectPieces entity search.bindings ++ resolver.fromWherePieces entity search) :=
  (selectClause_consistsOf free).append (fromWhere_consistsOf free)

theorem aggregatedRows_consistsOf (resolver : Resolver)
    (free : entity.FreeOfPlaceholders search.bindings) :
    (resolver.aggregatedRows entity search).ConsistsOf
      (resolver.aggregatingPieces entity search) := by
  rw [aggregatedRows, aggregatingPieces]
  split
  · exact listedRows_consistsOf free
  · exact fromWhere_consistsOf free

/-! ## The statements -/

theorem orderClause_eq_glue (free : entity.FreeOfPlaceholders search.bindings)
    (order? : Option Order) :
    ∃ text, orderClause entity order? = .ofText text ∧ placeholders text = 0 := by
  rw [orderClause]
  split
  · exact ⟨"", rfl, rfl⟩
  · rename_i order label sorted
    obtain ⟨asked, -, labelled⟩ := Option.bind_eq_some_iff.mp sorted
    obtain ⟨_, selected, same⟩ := Option.map_eq_some_iff.mp labelled
    obtain ⟨field, found, labels⟩ := Option.bind_eq_some_iff.mp selected
    obtain ⟨_, -, rfl⟩ := Option.map_eq_some_iff.mp labels
    obtain ⟨-, rfl⟩ : asked = order ∧ field.label = label := by simpa using same
    obtain ⟨-, label_glue, -⟩ := free.fields field (Entity.mem_of_field? found).1
    refine ⟨_, rfl, ?_⟩
    rw [placeholders_append, placeholders_append, label_glue]
    rcases order.direction? with _ | _ | _ <;> rfl

theorem listStatement_consistsOf (free : entity.FreeOfPlaceholders search.bindings) :
    (resolver.listStatement entity search
        (resolver.listedRows entity search)).statement.ConsistsOf
      (resolver.listingPieces entity search) := by
  obtain ⟨order, sorted, order_glue⟩ := orderClause_eq_glue free search.order?
  have clause : ((resolver.dialect.pageClause? search.page).getD (.ofText "")).ConsistsOf
      (resolver.dialect.pageClause? search.page).toList := by
    cases present : resolver.dialect.pageClause? search.page with
    | none => exact .glue "" rfl
    | some clause =>
        exact Fragment.ConsistsOf.of_balanced (Dialect.balanced_pageClause? present)
  rw [listStatement, Dialect.paginate_eq, sorted]
  exact ((listedRows_consistsOf free).append_glue order_glue |>.glue_append
    (Dialect.placeholders_pageOpening _ _)).append clause

theorem clusterStatement_consistsOf (free : entity.FreeOfPlaceholders search.bindings)
    (mapped : ∀ name ∈ search.fetch.summaryFields, (entity.column? name).isSome) :
    (clusterStatement entity search.fetch (search.fetch.summaryFields.filterMap entity.column?)
        (resolver.aggregatedRows entity search)).statement.ConsistsOf
      (resolver.aggregatingPieces entity search) := by
  have rows := aggregatedRows_consistsOf resolver free
  have fields : ∀ name ∈ search.fetch.summaryFields, placeholders name = 0 := by
    intro name summed
    obtain ⟨column, found⟩ := Option.isSome_iff_exists.mp (mapped name summed)
    exact (free.column found).1
  have columns : ∀ column ∈ search.fetch.summaryFields.filterMap entity.column?,
      placeholders column = 0 := by
    intro column member
    obtain ⟨name, -, found⟩ := List.mem_filterMap.mp member
    exact (free.column found).2
  have names := AggregateNames.glue_allocate fields (resolver.aggregatedRows entity search).sql
  rw [clusterStatement_eq]
  split
  · apply rows.wrap
    · rw [placeholders_append, placeholders_append, names.selected columns]
      rfl
    · rw [placeholders_append, names.table]
      rfl
  · split
    · apply rows.wrap
      · rw [placeholders_append, placeholders_append, placeholders_append,
          names.selected names.sums, names.selectedOfGroup columns]
        rfl
      · rw [placeholders_append, names.table]
        rfl
    · refine Fragment.ConsistsOf.glue_append ?_ rows
      rw [placeholders_append, names.selected columns]
      rfl

/-- The values of both statements stand in the order of the pieces they come from, as long as no
text of the entity and no spliced text has a placeholder of its own. -/
theorem resolve_bindsInOrder {resolution : Resolution}
    (free : entity.FreeOfPlaceholders search.bindings)
    (resolved : resolver.resolve entity search = .ok resolution) :
    resolution.list?.isSome = search.fetch.list ∧
      resolution.cluster?.isSome = search.fetch.aggregates ∧
      (∀ list ∈ resolution.list?,
        list.statement.BindsInOrder (resolver.listingPieces entity search)) ∧
      ∀ cluster ∈ resolution.cluster?,
        cluster.statement.BindsInOrder (resolver.aggregatingPieces entity search) := by
  obtain ⟨accepted, rfl⟩ := resolve_eq_ok_iff.mp resolved
  refine ⟨isSome_list?_statements, isSome_cluster?_statements, ?_, ?_⟩
  · intro list listed
    obtain ⟨-, rfl⟩ := mem_list?_statements.mp listed
    exact (listStatement_consistsOf free).bindsInOrder
  · intro cluster aggregated
    obtain ⟨-, rfl⟩ := mem_cluster?_statements.mp aggregated
    exact (clusterStatement_consistsOf free
      (searchError?_eq_none_iff.mp accepted).2).bindsInOrder

/-- Both statements of the specimen, in a dialect that wraps the listing one. -/
theorem resolve_specimen_bindsInOrder :
    Specimen.orders.FreeOfPlaceholders Specimen.search.bindings ∧
      ∃ list cluster,
        resolve { dialect := .oracle } Specimen.orders Specimen.search =
            .ok { list? := some list, cluster? := some cluster } ∧
          list.statement.BindsInOrder
            (listingPieces { dialect := .oracle } Specimen.orders Specimen.search) ∧
          cluster.statement.BindsInOrder
            (aggregatingPieces { dialect := .oracle } Specimen.orders Specimen.search) := by
  have resolved := Specimen.resolve_search { dialect := .oracle }
  have free : Specimen.orders.FreeOfPlaceholders Specimen.search.bindings :=
    ⟨by decide +kernel, by decide +kernel, by decide +kernel⟩
  obtain ⟨-, -, listing, aggregating⟩ := resolve_bindsInOrder free resolved
  exact ⟨free, _, _, resolved, listing _ rfl, aggregating _ rfl⟩

end Resolver

end EntitySearch
