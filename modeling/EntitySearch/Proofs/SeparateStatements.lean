import EntitySearch.Proofs.Assembly

/-!
# The statements do not influence each other

Both statements come from one search, but each is the one that the search would have if it fetched
nothing else, and the search has an error exactly when one of its halves has.  The aggregating
statement knows neither the order nor the page of the list nor the dialect, and the expressions and
labels that a list selects only if equal rows count once.
-/

namespace EntitySearch

namespace Search

/-- The same search without a total and without sums. -/
def listPart (search : Search) : Search :=
  { search with fetch := { search.fetch with total := false, summaryFields := [] } }

/-- The same search without the list. -/
def clusterPart (search : Search) : Search :=
  { search with fetch := { search.fetch with list := false } }

end Search

/-- The field as filters and sums know it: it is not selected, and its label is its name. -/
def Field.unselected (field : Field) : Field := { field with label := field.name, select? := none }

namespace Entity

/-- The entity as filters and sums know it, with no field selected. -/
def unselected (entity : Entity) : Entity :=
  { entity with
    fields :=
      { toList := entity.fields.toList.map Field.unselected
        names_nodup := by
          rw [List.map_map]
          exact entity.fields.names_nodup
        labels_nodup := by
          rw [List.map_map]
          exact entity.fields.names_nodup } }

theorem field?_unselected (entity : Entity) (name : String) :
    entity.unselected.field? name = (entity.field? name).map Field.unselected :=
  List.find?_map

theorem column?_unselected (entity : Entity) (name : String) :
    entity.unselected.column? name = entity.column? name := by
  rw [column?, column?, field?_unselected]
  cases entity.field? name <;> rfl

end Entity

namespace Resolver

variable {resolver : Resolver} {entity : Entity} {search : Search}

/-! ## Each statement alone -/

/-- The aggregating statement of a search, if one is fetched, or the error of the search. -/
def clusterOf (resolver : Resolver) (entity : Entity) (search : Search) :
    Except SearchError (Option ClusterStatement) :=
  (resolver.resolve entity search).map (·.cluster?)

theorem clusterOf_eq (resolver : Resolver) (entity : Entity) (search : Search) :
    resolver.clusterOf entity search =
      errorOr (searchError? entity search) (resolver.statements entity search).cluster? := by
  rw [clusterOf, resolve_eq]
  cases searchError? entity search <;> rfl

/-- Without sums only the filters can be wrong, and those the other half has as well. -/
theorem searchError?_listPart (accepted : searchError? entity search.clusterPart = none) :
    searchError? entity search.listPart = none := by
  rw [searchError?_eq_none_iff] at accepted ⊢
  exact ⟨accepted.1, fun name summed => by cases summed⟩

theorem statements_eq_parts (resolver : Resolver) (entity : Entity) (search : Search) :
    resolver.statements entity search =
      { list? := (resolver.statements entity search.listPart).list?
        cluster? := (resolver.statements entity search.clusterPart).cluster? } :=
  rfl

theorem resolve_eq_ok_iff_parts {resolution : Resolution} :
    resolver.resolve entity search = .ok resolution ↔
      ∃ listed clustered, resolver.resolve entity search.listPart = .ok listed ∧
        resolver.resolve entity search.clusterPart = .ok clustered ∧
        resolution = { list? := listed.list?, cluster? := clustered.cluster? } := by
  simp only [resolve_eq_ok_iff]
  constructor
  · rintro ⟨accepted, rfl⟩
    have accepted_part : searchError? entity search.clusterPart = none := accepted
    exact ⟨_, _, ⟨searchError?_listPart accepted_part, rfl⟩, ⟨accepted_part, rfl⟩,
      statements_eq_parts resolver entity search⟩
  · rintro ⟨listed, clustered, ⟨-, rfl⟩, ⟨accepted, rfl⟩, rfl⟩
    exact ⟨accepted, (statements_eq_parts resolver entity search).symm⟩

/-! ## What the aggregating statement does not know -/

/-- All dialects fold case alike, and a page and an order come behind the rows. -/
theorem clusterOf_page (resolver : Resolver) (entity : Entity) (search : Search)
    (dialect : Dialect) (order? : Option Order) (page : Page) :
    clusterOf { resolver with dialect } entity { search with order?, page } =
      resolver.clusterOf entity search := by
  rw [clusterOf_eq, clusterOf_eq]
  rfl

theorem filterCondition_unselected (resolver : Resolver) (entity : Entity) (filter : Filter) :
    resolver.filterCondition entity.unselected filter = resolver.filterCondition entity filter := by
  rw [filterCondition, filterCondition, Entity.field?_unselected]
  cases entity.field? filter.field <;> rfl

theorem searchError?_unselected (entity : Entity) (search : Search) :
    searchError? entity.unselected search = searchError? entity search := by
  have filters : filterError? entity.unselected = filterError? entity := by
    funext filter
    rw [filterError?, filterError?, entity.column?_unselected]
  have sums : summaryError? entity.unselected = summaryError? entity := by
    funext name
    rw [summaryError?, summaryError?, entity.column?_unselected]
  rw [searchError?, searchError?, filters, sums]

theorem fromWhere_unselected (resolver : Resolver) (entity : Entity) (search : Search) :
    resolver.fromWhere entity.unselected search = resolver.fromWhere entity search := by
  have filtered : resolver.filterConditions entity.unselected search.filters =
      resolver.filterConditions entity search.filters := by
    rw [filterConditions, filterConditions, funext (resolver.filterCondition_unselected entity)]
  rw [fromWhere, filtered]
  rfl

/-- Rows that do not count once are aggregated without their select clause. -/
theorem clusterOf_unselected (all : entity.distinct = false) :
    resolver.clusterOf entity.unselected search = resolver.clusterOf entity search := by
  have rows : resolver.aggregatedRows entity.unselected search =
      resolver.aggregatedRows entity search := by
    have all_unselected : entity.unselected.distinct = false := all
    rw [aggregatedRows, aggregatedRows, all, all_unselected]
    exact resolver.fromWhere_unselected entity search
  have columns : entity.unselected.column? = entity.column? := funext entity.column?_unselected
  rw [clusterOf_eq, clusterOf_eq, searchError?_unselected, statements, rows, columns]
  rfl

/-- A search resolves as its two halves do, each giving one statement, and what only the list shows
leaves the aggregating statement as it is. -/
theorem resolve_separates (resolver : Resolver) (entity : Entity) (search : Search) :
    (∀ resolution, resolver.resolve entity search = .ok resolution ↔
      ∃ listed clustered, resolver.resolve entity search.listPart = .ok listed ∧
        resolver.resolve entity search.clusterPart = .ok clustered ∧
        resolution = { list? := listed.list?, cluster? := clustered.cluster? }) ∧
    (∀ dialect order? page,
      clusterOf { resolver with dialect } entity { search with order?, page } =
        resolver.clusterOf entity search) ∧
    (entity.distinct = false → ∀ other : Entity, other.unselected = entity.unselected →
      resolver.clusterOf other search = resolver.clusterOf entity search) := by
  refine ⟨fun _ => resolve_eq_ok_iff_parts, clusterOf_page resolver entity search, ?_⟩
  intro all other same
  have other_all : other.distinct = false := by
    have distinct := congrArg Entity.distinct same
    exact distinct.trans all
  rw [← clusterOf_unselected all, ← clusterOf_unselected other_all, same]

/-- The orders of the specimen, listed by other expressions under other labels. -/
def relabelledOrders : Entity :=
  { Specimen.everyOrder with
    fields :=
      { toList :=
          [.ofMapping "id"
              (((FieldMapping.selected "o.id || :suffix" .long).withLabel "number").withColumn
                "o.id"),
            .ofMapping "title" (.ofColumn "o.title" .text),
            .ofMapping "placed" ((FieldMapping.selected "o.placed" .dateTime).withLabel "day")]
        names_nodup := by decide
        labels_nodup := by decide } }

/-- Other columns of the list leave the number and the sum of all orders alone. -/
theorem resolve_separates_orders :
    Specimen.everyOrder.distinct = false ∧
      relabelledOrders.unselected = Specimen.everyOrder.unselected ∧
      relabelledOrders.labels ≠ Specimen.everyOrder.labels ∧
      clusterOf {} relabelledOrders Specimen.search =
        clusterOf {} Specimen.everyOrder Specimen.search ∧
      ∃ cluster, clusterOf {} Specimen.everyOrder Specimen.search = .ok (some cluster) := by
  have same : relabelledOrders.unselected = Specimen.everyOrder.unselected := by decide +kernel
  have aggregated : (statements {} Specimen.everyOrder Specimen.search).cluster?.isSome :=
    isSome_cluster?_statements
  obtain ⟨cluster, present⟩ := Option.isSome_iff_exists.mp aggregated
  obtain ⟨-, -, columns⟩ := resolve_separates {} Specimen.everyOrder Specimen.search
  refine ⟨rfl, same, by decide +kernel, columns rfl relabelledOrders same, cluster, ?_⟩
  rw [clusterOf, Specimen.resolve_everyOrder, ← present]
  rfl

end Resolver

end EntitySearch
