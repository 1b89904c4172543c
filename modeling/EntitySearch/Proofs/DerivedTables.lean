import EntitySearch.Proofs.GeneratedNames

/-!
# What an aggregating statement takes from a derived table

A statement over a derived table knows its columns by their names only.  Over groups the inner
select list names every sum that the outer one takes up, and it is never empty.  A list of which
equal rows count once names its columns by the labels of the selected fields, whereas the statement
over it sums the mapped columns of the summed fields: that fits together exactly when those columns
read like labels and something is selected at all.
-/

namespace EntitySearch

/-- A statement that counts the rows of a derived table and sums over its columns. -/
structure DerivedAggregate where
  /-- The name of the number of rows, if they are counted. -/
  count? : Option String
  /-- The summed expressions, with the names of their sums. -/
  sums : List NamedExpression
  /-- What the subquery starts with. -/
  opening : String
  /-- The select list of the subquery. -/
  columns : List NamedExpression
  /-- What stands behind the select list of the subquery. -/
  rows : String
  /-- The name of the derived table. -/
  table : String
  deriving DecidableEq, Repr

namespace DerivedAggregate

/-- The select list of the statement itself. -/
def outer (aggregate : DerivedAggregate) : List NamedExpression :=
  aggregate.count?.toList.map .count ++ aggregate.sums.map fun summed =>
    .sum summed.expression summed.name

/-- The statement in full. -/
def sql (aggregate : DerivedAggregate) : String :=
  "select " ++ NamedExpression.listSql aggregate.outer ++ " from (" ++ (aggregate.opening ++
    NamedExpression.listSql aggregate.columns ++ aggregate.rows) ++ ") " ++ aggregate.table

/-- The names that the derived table has for its columns. -/
def exported (aggregate : DerivedAggregate) : List String := aggregate.columns.map (·.name)

/-- The statement sums nothing but columns of the derived table, and that has columns. -/
structure IsClosed (aggregate : DerivedAggregate) : Prop where
  exported : ∀ summed ∈ aggregate.sums, summed.expression ∈ aggregate.exported
  columns : aggregate.columns ≠ []

instance (aggregate : DerivedAggregate) : Decidable aggregate.IsClosed :=
  decidable_of_iff
    ((∀ summed ∈ aggregate.sums, summed.expression ∈ aggregate.exported) ∧ aggregate.columns ≠ [])
    ⟨fun closed => ⟨closed.1, closed.2⟩, fun closed => ⟨closed.exported, closed.columns⟩⟩

end DerivedAggregate

namespace AggregateNames

variable {names : AggregateNames} {summands : List String}

/-- What is selected of every group: the sums, or the count when nothing is summed. -/
def groupColumns (names : AggregateNames) (summands : List String) : List NamedExpression :=
  if names.sums.isEmpty then names.count?.toList.map .count
  else List.zipWith .sum summands names.sums

section full

variable (full : summands.length = names.sums.length)

include full

theorem groupColumns_eq :
    names.groupColumns summands =
      if (names.namedSums summands).isEmpty then names.count?.toList.map .count
      else (names.namedSums summands).map fun summed => .sum summed.expression summed.name := by
  have sums : (names.namedSums summands).isEmpty = names.sums.isEmpty := by
    rw [← name_namedSums full, List.isEmpty_map]
  rw [groupColumns, sums, namedSums, List.map_zipWith]

/-- When something is summed, the columns of a group are the sums. -/
theorem name_groupColumns (summed : names.sums ≠ []) :
    (names.groupColumns summands).map (·.name) = names.sums := by
  rw [groupColumns, if_neg (by simpa using summed), ← List.map_uncurry_zip_eq_zipWith,
    List.map_map]
  exact List.map_snd_zip full.ge

theorem groupColumns_ne_nil (selected : names.count?.isSome ∨ names.sums ≠ []) :
    names.groupColumns summands ≠ [] := by
  by_cases summed : names.sums = []
  · obtain ⟨name, counted⟩ := Option.isSome_iff_exists.mp
      (selected.resolve_right (not_not.mpr summed))
    simp [groupColumns, summed, counted]
  · intro nothing
    have exported := name_groupColumns full summed
    rw [nothing] at exported
    exact summed exported.symm

end full

end AggregateNames

namespace DerivedAggregate

variable {names : AggregateNames} {summands : List String}

/-- The count and the sums over the columns of a list. -/
def ofList (names : AggregateNames) (summands : List String) (columns : List NamedExpression)
    (rows : String) : DerivedAggregate :=
  ⟨names.count?, names.namedSums summands, "select distinct ", columns, rows, names.table⟩

/-- The number of groups and the sums over the sums of the groups. -/
def ofGroups (names : AggregateNames) (summands : List String) (rows : String) :
    DerivedAggregate :=
  ⟨names.count?, names.namedSums names.sums, "select ", names.groupColumns summands, rows,
    names.table⟩

theorem isClosed_ofList_iff (full : summands.length = names.sums.length)
    (columns : List NamedExpression) (rows : String) :
    (ofList names summands columns rows).IsClosed ↔
      (∀ summand ∈ summands, summand ∈ columns.map (·.name)) ∧ columns ≠ [] := by
  have each : (∀ summed ∈ names.namedSums summands, summed.expression ∈ columns.map (·.name)) ↔
      ∀ summand ∈ summands, summand ∈ columns.map (·.name) := by
    conv_rhs => rw [← AggregateNames.expression_namedSums full]
    rw [List.forall_mem_map]
  rw [← each]
  exact ⟨fun closed => ⟨closed.exported, closed.columns⟩, fun closed => ⟨closed.1, closed.2⟩⟩

theorem isClosed_ofGroups (full : summands.length = names.sums.length)
    (selected : names.count?.isSome ∨ names.sums ≠ []) (rows : String) :
    (ofGroups names summands rows).IsClosed where
  exported := by
    intro summed member
    have sums : (names.namedSums names.sums).map (·.expression) = names.sums :=
      AggregateNames.expression_namedSums rfl
    have taken : summed.expression ∈ names.sums := by
      rw [← sums]
      exact List.mem_map_of_mem member
    have columns := AggregateNames.name_groupColumns full (List.ne_nil_of_mem taken)
    change summed.expression ∈ (names.groupColumns summands).map (·.name)
    rw [columns]
    exact taken
  columns := AggregateNames.groupColumns_ne_nil full selected

end DerivedAggregate

namespace Resolver

variable {resolver : Resolver} {entity : Entity} {search : Search}

/-- The select list of a list: the selected expressions with the labels of their fields. -/
def listColumns (entity : Entity) (bindings : Bindings) : List NamedExpression :=
  entity.selections.map fun selection =>
    ⟨(selection.2.resolve bindings).sql, selection.1.label⟩

theorem sql_selectClause (entity : Entity) (bindings : Bindings) :
    (selectClause entity bindings).sql =
      (if entity.distinct then "select distinct " else "select ") ++
        NamedExpression.listSql (listColumns entity bindings) := by
  simp only [selectClause, Fragment.sql_append, Fragment.sql_ofText, Fragment.sql_join, listColumns,
    NamedExpression.listSql, List.map_map, Function.comp_def, NamedExpression.sql,
    String.append_assoc]

/-- The aggregating statement over a derived table, taken apart. -/
def derivedAggregate (resolver : Resolver) (entity : Entity) (search : Search) :
    DerivedAggregate :=
  let names := AggregateNames.allocate (resolver.aggregatedRows entity search).sql search.fetch
  let summands := search.fetch.summaryFields.filterMap entity.column?
  let rows := (resolver.fromWhere entity search).sql
  if entity.distinct then .ofList names summands (listColumns entity search.bindings) rows
  else .ofGroups names summands rows

section accepted

variable (accepted : searchError? entity search = none)

include accepted

theorem sql_derivedAggregate (derived : entity.distinct || entity.grouping?.isSome) :
    (clusterStatement entity search.fetch (search.fetch.summaryFields.filterMap entity.column?)
        (resolver.aggregatedRows entity search)).statement.sql =
      (resolver.derivedAggregate entity search).sql := by
  have full := length_summands accepted (resolver.aggregatedRows entity search).sql
  rw [(names_clusterStatement accepted _).text, clusterText, derivedAggregate]
  cases distinct : entity.distinct with
  | true =>
      have rows : resolver.aggregatedRows entity search = resolver.listedRows entity search :=
        if_pos distinct
      simp only [if_true]
      rw [rows, listedRows, Fragment.sql_append, sql_selectClause, if_pos distinct]
      rfl
  | false =>
      have grouped : entity.grouping?.isSome = true := by simpa [distinct] using derived
      have rows : resolver.aggregatedRows entity search = resolver.fromWhere entity search :=
        if_neg (by simp [distinct])
      have opening : " from (select " = " from (" ++ "select " := rfl
      simp only [Bool.false_eq_true, if_false, grouped, if_true, ← AggregateNames.selected_eq,
        ← AggregateNames.selected_sums full, ← AggregateNames.groupColumns_eq full,
        DerivedAggregate.sql, DerivedAggregate.outer, DerivedAggregate.ofGroups]
      rw [rows, opening]
      simp only [String.append_assoc]

theorem isClosed_of_groups (aggregated : search.fetch.aggregates = true)
    (groups : entity.distinct = false) : (resolver.derivedAggregate entity search).IsClosed := by
  have one_each (text : String) : (AggregateNames.allocate text search.fetch).sums.length =
      search.fetch.summaryFields.length := Alias.columns_length _ _
  have selected (text : String) :
      (AggregateNames.allocate text search.fetch).count?.isSome ∨
        (AggregateNames.allocate text search.fetch).sums ≠ [] := by
    simp only [Fetch.aggregates, Bool.or_eq_true] at aggregated
    refine aggregated.imp (fun total => ?_) fun summed nothing => ?_
    · simp only [AggregateNames.allocate, total, if_true, Option.isSome_some]
    · have none_summed := one_each text
      rw [nothing, List.length_nil] at none_summed
      simp [List.eq_nil_of_length_eq_zero none_summed.symm] at summed
  rw [derivedAggregate, groups]
  exact DerivedAggregate.isClosed_ofGroups (length_summands accepted _) (selected _) _

theorem isClosed_iff_of_list (distinct : entity.distinct = true) :
    (resolver.derivedAggregate entity search).IsClosed ↔
      (∀ field ∈ search.fetch.summaryFields, ∀ column ∈ entity.column? field,
        column ∈ entity.labels) ∧ entity.labels ≠ [] := by
  have labels : (listColumns entity search.bindings).map (·.name) = entity.labels :=
    List.map_map
  have some_column : listColumns entity search.bindings ≠ [] ↔ entity.labels ≠ [] := by
    rw [← labels, Ne, Ne, List.map_eq_nil_iff]
  have summands : (∀ summand ∈ search.fetch.summaryFields.filterMap entity.column?,
        summand ∈ entity.labels) ↔
      ∀ field ∈ search.fetch.summaryFields, ∀ column ∈ entity.column? field,
        column ∈ entity.labels := by
    simp only [List.mem_filterMap, Option.mem_def]
    exact ⟨fun each field summed column mapped => each column ⟨field, summed, mapped⟩,
      fun each column ⟨field, summed, mapped⟩ => each field summed column mapped⟩
  rw [derivedAggregate, distinct, if_pos rfl,
    DerivedAggregate.isClosed_ofList_iff (length_summands accepted _), labels, some_column,
    summands]

end accepted

/-- How the aggregating statement over a derived table draws on it. -/
structure DrawsOnTable (entity : Entity) (search : Search) (cluster : ClusterStatement)
    (aggregate : DerivedAggregate) : Prop where
  text : cluster.statement.sql = aggregate.sql
  count : cluster.countName? = aggregate.count?
  sums : cluster.sumNames = aggregate.sums.map (·.name)
  /-- Of groups the sums that are taken up are the sums of the groups. -/
  ofGroups : entity.distinct = false → aggregate.IsClosed
  /-- A list exports the labels of its columns. -/
  labels : entity.distinct = true → aggregate.exported = entity.labels
  /-- Over a list the mapped columns of the summed fields are summed, in the same order. -/
  mapped : entity.distinct = true →
    List.Forall₂ (fun field summed => entity.column? field = some summed.expression)
      search.fetch.summaryFields aggregate.sums
  /-- Over a list it is up to the entity whether those columns are exported. -/
  ofList : entity.distinct = true →
    (aggregate.IsClosed ↔
      (∀ field ∈ search.fetch.summaryFields, ∀ column ∈ entity.column? field,
        column ∈ entity.labels) ∧ entity.labels ≠ [])

/-- Sums over groups are taken from the derived table.  Sums over a list that counts equal rows once
are sums over mapped columns, which the list exports when they are labels. -/
theorem resolve_drawsOnTable {resolution : Resolution} {cluster : ClusterStatement}
    (resolved : resolver.resolve entity search = .ok resolution)
    (aggregated : resolution.cluster? = some cluster)
    (derived : entity.distinct || entity.grouping?.isSome) :
    DrawsOnTable entity search cluster (resolver.derivedAggregate entity search) := by
  obtain ⟨accepted, rfl⟩ := resolve_eq_ok_iff.mp resolved
  obtain ⟨fetched, rfl⟩ := mem_cluster?_statements.mp aggregated
  have full := length_summands accepted (resolver.aggregatedRows entity search).sql
  refine ⟨sql_derivedAggregate accepted derived, ?_, ?_, isClosed_of_groups accepted fetched, ?_,
    ?_, isClosed_iff_of_list accepted⟩
  · rw [derivedAggregate]
    split <;> rfl
  · rw [derivedAggregate]
    split
    · exact (AggregateNames.name_namedSums full).symm
    · exact (AggregateNames.name_namedSums rfl).symm
  · intro distinct
    rw [derivedAggregate, if_pos distinct]
    exact List.map_map
  · intro distinct
    have mapped := columns_of_mapped (searchError?_eq_none_iff.mp accepted).2
    rw [← AggregateNames.expression_namedSums full, List.forall₂_map_right_iff] at mapped
    rw [derivedAggregate, if_pos distinct]
    exact mapped

/-- Of the groups of the specimen one sum is taken up, and that is a column of the subquery. -/
theorem resolve_everyOrder_drawsOnTable :
    ∃ (resolution : Resolution) (cluster : ClusterStatement),
      resolve {} Specimen.everyOrder Specimen.search = .ok resolution ∧
        resolution.cluster? = some cluster ∧ Specimen.everyOrder.grouping?.isSome ∧
        DrawsOnTable Specimen.everyOrder Specimen.search cluster
          (derivedAggregate {} Specimen.everyOrder Specimen.search) ∧
        cluster.sumNames.length = 1 := by
  have resolved := Specimen.resolve_everyOrder {}
  exact ⟨_, _, resolved, rfl, rfl, resolve_drawsOnTable resolved rfl rfl, rfl⟩

/-- Items with a rating, which lists show doubled. -/
def ratedItems : Entity where
  table := .ofText "item i"
  fields :=
    { toList :=
        [.ofMapping "id" (.selected "i.id" .long),
          .ofMapping "score" ((FieldMapping.selected "i.rating * 2" .double).withColumn "i.rating")]
      names_nodup := by decide
      labels_nodup := by decide }
  joinCondition? := none
  grouping? := none
  distinct := true
  table_notBlank := by decide +kernel

/-- The sum of the ratings. -/
def rating : Search where
  fetch := { summaryFields := ["score"] }

/-- The list of the items does not export the column that is summed over it. -/
theorem resolve_sums_unexported :
    ∃ cluster, resolve {} ratedItems rating = .ok { list? := none, cluster? := some cluster } ∧
      ratedItems.distinct = true ∧
      cluster.statement.sql =
        "select sum(i.rating) col_score from " ++
          "(select distinct i.id id, i.rating * 2 score from item i) tbl_" ∧
      cluster.statement.sql = (derivedAggregate {} ratedItems rating).sql ∧
      (derivedAggregate {} ratedItems rating).exported = ["id", "score"] ∧
      (derivedAggregate {} ratedItems rating).sums = [⟨"i.rating", "col_score"⟩] ∧
      ¬(derivedAggregate {} ratedItems rating).IsClosed := by
  have accepted : searchError? ratedItems rating = none := by decide +kernel
  have resolved : resolve {} ratedItems rating = .ok (statements {} ratedItems rating) :=
    resolve_eq_ok_iff.mpr ⟨accepted, rfl⟩
  refine ⟨_, resolved, rfl, ?_⟩
  decide +kernel

end Resolver

end EntitySearch
