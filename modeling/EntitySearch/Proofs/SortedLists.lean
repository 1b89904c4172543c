import EntitySearch.Proofs.AggregatedRows
import EntitySearch.Proofs.WellFormedEntities

/-!
# Sorted lists

An order adds one clause to the listing statement, behind the rows and before the page, and only if
it names a field that the list selects.  The clause then names a label of the list.  Whatever else
an order names, and in all that is not the text of the list, a search has the result that it has
without an order.
-/

namespace EntitySearch

/-- What the clause of an order ends in. -/
def Order.ending (order : Order) : String :=
  match order.direction? with
  | none => ""
  | some .ascending => " asc"
  | some .descending => " desc"

namespace Entity

/-- The entity selects the field with the name under the label. -/
def Selects (entity : Entity) (name label : String) : Prop :=
  ∃ field ∈ entity.fields.toList, field.name = name ∧ field.select?.isSome ∧ field.label = label

variable {entity : Entity} {name label : String}

theorem selectedLabel?_eq_some_iff :
    entity.selectedLabel? name = some label ↔ entity.Selects name label := by
  simp only [selectedLabel?, Option.bind_eq_some_iff, Option.map_eq_some_iff, field?_eq_some_iff,
    Selects, Option.isSome_iff_exists]
  constructor
  · rintro ⟨field, ⟨member, named⟩, snippet, selected, labelled⟩
    exact ⟨field, member, named, ⟨snippet, selected⟩, labelled⟩
  · rintro ⟨field, member, named, ⟨snippet, selected⟩, labelled⟩
    exact ⟨field, ⟨member, named⟩, snippet, selected, labelled⟩

theorem selectedLabel?_eq_none_iff :
    entity.selectedLabel? name = none ↔ ∀ label, ¬entity.Selects name label := by
  simp only [Option.eq_none_iff_forall_ne_some, Ne, selectedLabel?_eq_some_iff]

theorem Selects.label_mem (selects : entity.Selects name label) : label ∈ entity.labels := by
  obtain ⟨field, member, -, selected, rfl⟩ := selects
  obtain ⟨snippet, selected⟩ := Option.isSome_iff_exists.mp selected
  refine List.mem_map.mpr ⟨(field, snippet), List.mem_filterMap.mpr ⟨field, member, ?_⟩, rfl⟩
  rw [selected, Option.map_some]

end Entity

namespace Resolver

variable {resolver : Resolver} {entity : Entity} {search : Search} {order : Order}

theorem orderClause_of_selects {label : String} (selects : entity.Selects order.field label) :
    orderClause entity (some order) = .ofText (" order by " ++ label ++ order.ending) := by
  have found : entity.selectedLabel? order.field = some label :=
    Entity.selectedLabel?_eq_some_iff.mpr selects
  rw [orderClause, Option.bind_some, found, Order.ending]
  rcases order with ⟨field, _ | _ | _⟩ <;> rfl

theorem orderClause_of_not_selects (unselected : ∀ label, ¬entity.Selects order.field label) :
    orderClause entity (some order) = .ofText "" := by
  have absent : entity.selectedLabel? order.field = none :=
    Entity.selectedLabel?_eq_none_iff.mpr unselected
  rw [orderClause, Option.bind_some, absent]
  rfl

/-- The listing statement of a search that fetches a list. -/
theorem listStatement_eq (order? : Option Order) :
    resolver.listStatement entity { search with order? } (resolver.listedRows entity search) =
      ⟨resolver.dialect.paginate search.page (selectClause entity search.bindings ++
        (resolver.fromWhere entity search ++ orderClause entity order?)), entity.labels⟩ := by
  rw [listStatement, listedRows, Fragment.append_assoc]

/-- What an order makes of the result of a search. -/
structure SortsBy (resolver : Resolver) (entity : Entity) (search : Search) (order : Order)
    (plain sorted : Resolution) : Prop where
  unsorted : ∀ list ∈ plain.list?, list.statement =
    resolver.dialect.paginate search.page
      (selectClause entity search.bindings ++ resolver.fromWhere entity search)
  /-- An order by a selected field stands behind the rows and names the label of the field. -/
  selected : ∀ label, entity.Selects order.field label → ∀ list ∈ sorted.list?,
    label ∈ list.labels ∧ list.statement =
      resolver.dialect.paginate search.page (selectClause entity search.bindings ++
        (resolver.fromWhere entity search ++ .ofText (" order by " ++ label ++ order.ending)))
  /-- An order by anything else is no order. -/
  ignored : (∀ label, ¬entity.Selects order.field label) → sorted = plain
  values : sorted.list?.map (·.statement.params) = plain.list?.map (·.statement.params)
  labels : sorted.list?.map (·.labels) = plain.list?.map (·.labels)
  cluster : sorted.cluster? = plain.cluster?

theorem statements_sortsBy (unsorted : search.order? = none) (order : Order) :
    resolver.SortsBy entity search order (resolver.statements entity search)
      (resolver.statements entity { search with order? := some order }) where
  unsorted := by
    intro list listed
    obtain ⟨-, rfl⟩ := mem_list?_statements.mp listed
    have clause : orderClause entity search.order? = .ofText "" := by
      rw [unsorted]
      rfl
    rw [listStatement, clause, Fragment.append_ofText_empty, listedRows]
  selected := by
    intro label selects list listed
    obtain ⟨-, rfl⟩ := mem_list?_statements.mp listed
    refine ⟨selects.label_mem, ?_⟩
    rw [← orderClause_of_selects selects]
    exact congrArg ListStatement.statement (listStatement_eq (some order))
  ignored := by
    intro unselected
    have clause : orderClause entity (some order) = orderClause entity search.order? := by
      rw [orderClause_of_not_selects unselected, unsorted]
      rfl
    simp only [statements, listStatement, clause]
    rfl
  values := by
    simp only [statements, listStatement, apply_ite (Option.map _), Option.map_some,
      Option.map_none, Dialect.params_paginate, Fragment.params_append, params_orderClause]
    rfl
  labels := by
    simp only [statements, listStatement, apply_ite (Option.map _), Option.map_some,
      Option.map_none]
  cluster := rfl

/-- An order is confined to the label of a selected field, and whether a search has a result does
not depend on it. -/
theorem resolve_sortsBy (resolver : Resolver) (entity : Entity) {search : Search}
    (unsorted : search.order? = none) (order : Order) :
    (∃ error, resolver.resolve entity search = .error error ∧
        resolver.resolve entity { search with order? := some order } = .error error) ∨
      ∃ plain sorted, resolver.resolve entity search = .ok plain ∧
        resolver.resolve entity { search with order? := some order } = .ok sorted ∧
        resolver.SortsBy entity search order plain sorted := by
  have errors : searchError? entity { search with order? := some order } =
      searchError? entity search := rfl
  rw [resolve_eq, resolve_eq, errors]
  cases searchError? entity search with
  | some error => exact Or.inl ⟨error, rfl, rfl⟩
  | none => exact Or.inr ⟨_, _, rfl, rfl, statements_sortsBy unsorted order⟩

/-- In a dialect whose pages wrap the list, the clause stands inside the wrapping. -/
theorem resolve_specimen_sortsBy :
    ∃ plain sorted list, resolve { dialect := .oracle } Specimen.orders
          { Specimen.search with order? := none } = .ok plain ∧
        resolve { dialect := .oracle } Specimen.orders
          { Specimen.search with order? := some (.ofText "-title") } = .ok sorted ∧
        SortsBy { dialect := .oracle } Specimen.orders { Specimen.search with order? := none }
          (.ofText "-title") plain sorted ∧
        Specimen.orders.Selects "title" "title" ∧ sorted.list? = some list ∧
        "title" ∈ list.labels := by
  have accepted : searchError? Specimen.orders { Specimen.search with order? := none } = none :=
    Specimen.searchError?_search
  have selects : Specimen.orders.Selects "title" "title" :=
    Entity.selectedLabel?_eq_some_iff.mp (by decide +kernel)
  have unsorted : Search.order? { Specimen.search with order? := none } = none := rfl
  rcases resolve_sortsBy { dialect := .oracle } Specimen.orders unsorted (.ofText "-title") with
    ⟨error, failed, -⟩ | ⟨plain, sorted, resolved, resolved_sorted, sortsBy⟩
  · rw [resolve_eq_error_iff, accepted] at failed
    cases failed
  · have listed : sorted.list?.isSome := by
      obtain ⟨-, rfl⟩ := resolve_eq_ok_iff.mp resolved_sorted
      exact isSome_list?_statements
    obtain ⟨list, present⟩ := Option.isSome_iff_exists.mp listed
    exact ⟨plain, sorted, list, resolved, resolved_sorted, sortsBy, selects, present,
      (sortsBy.selected "title" selects list present).1⟩

end Resolver

end EntitySearch
