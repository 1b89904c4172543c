import EntitySearch.Proofs.Assembly
import EntitySearch.Proofs.UnmappedFields
import EntitySearch.Proofs.WhereClause.Conditions

/-!
# Filters that restrict nothing

A filter has no condition exactly when the values it was given leave both ends of its range open or
are no alternatives at all, whatever correction and upper case make of them.  Such a filter can be
left out of a search without a trace in its statements.
-/

namespace EntitySearch

namespace Filter

/-- The filter is a range without ends or a choice of nothing. -/
def IsIdle (filter : Filter) : Prop :=
  (filter.operator = .between ∧ ∀ value ∈ filter.values.take 2, value.isBlank = true) ∨
    (filter.operator = .oneOf ∧ filter.values = [])

theorem restricts_eq_false_iff {filter : Filter} : filter.restricts = false ↔ filter.IsIdle := by
  rw [restricts, IsIdle]
  cases filter.operator <;> simp

theorem condition?_eq_none_iff {filter : Filter} {type : FieldType} {column : String}
    {dialect : Dialect} {correction : Correction} :
    filter.condition? type column dialect correction = none ↔ filter.IsIdle := by
  rw [← restricts_eq_false_iff, ← filter.isSome_condition? type column dialect correction,
    Option.isSome_eq_false_iff, Option.isNone_iff_eq_none]

end Filter

/-- Filters that restrict nothing are left out of a list, from any places; their fields have
columns, so that leaving them out hides no error. -/
inductive Entity.LeavesOut (entity : Entity) : List Filter → List Filter → Prop where
  | nil : LeavesOut entity [] []
  | keep (filter : Filter) {filters kept : List Filter} :
      LeavesOut entity filters kept → LeavesOut entity (filter :: filters) (filter :: kept)
  | drop {filter : Filter} {filters kept : List Filter} :
      filter.IsIdle → ¬ entity.Unmapped filter.field → LeavesOut entity filters kept →
        LeavesOut entity (filter :: filters) kept

namespace Resolver

variable {entity : Entity}

theorem filterCondition_of_isIdle (resolver : Resolver) {filter : Filter} (idle : filter.IsIdle) :
    resolver.filterCondition entity filter = none := by
  rw [filterCondition, Option.bind_eq_none_iff]
  intro field _
  rw [Option.bind_eq_none_iff]
  intro column _
  exact Filter.condition?_eq_none_iff.mpr idle

theorem filterConditions_of_leavesOut (resolver : Resolver) {filters kept : List Filter}
    (leavesOut : entity.LeavesOut filters kept) :
    resolver.filterConditions entity kept = resolver.filterConditions entity filters := by
  simp only [filterConditions]
  induction leavesOut with
  | nil => rfl
  | keep filter _ induction => rw [List.filterMap_cons, List.filterMap_cons, induction]
  | drop idle _ _ induction =>
      rw [List.filterMap_cons_none (resolver.filterCondition_of_isIdle idle), induction]

theorem findSome?_filterError?_of_leavesOut {filters kept : List Filter}
    (leavesOut : entity.LeavesOut filters kept) :
    kept.findSome? (filterError? entity) = filters.findSome? (filterError? entity) := by
  induction leavesOut with
  | nil => rfl
  | keep filter _ induction => rw [List.findSome?_cons, List.findSome?_cons, induction]
  | drop _ mapped _ induction =>
      rw [List.findSome?_cons, induction, filterError?,
        if_pos (Entity.isSome_column?_iff.mpr mapped)]

/-- The statements depend on the filters by way of their conditions. -/
theorem statements_of_leavesOut (resolver : Resolver) {search : Search} {kept : List Filter}
    (leavesOut : entity.LeavesOut search.filters kept) :
    resolver.statements entity { search with filters := kept } =
      resolver.statements entity search := by
  have rows : resolver.fromWhere entity { search with filters := kept } =
      resolver.fromWhere entity search := by
    rw [fromWhere, fromWhere, resolver.filterConditions_of_leavesOut leavesOut]
  simp only [statements, listedRows, aggregatedRows, rows]
  rfl

/-- A filter without a condition restricts nothing, and leaving such filters out changes neither
the statements nor the error of a search. -/
theorem resolve_leavesOut (resolver : Resolver) (entity : Entity) (search : Search) :
    (∀ (filter : Filter) (type : FieldType) (column : String) (dialect : Dialect)
        (correction : Correction),
      filter.condition? type column dialect correction = none ↔ filter.IsIdle) ∧
    ∀ kept, entity.LeavesOut search.filters kept →
      resolver.resolve entity { search with filters := kept } =
        resolver.resolve entity search := by
  refine ⟨fun _ _ _ _ _ => Filter.condition?_eq_none_iff, fun kept leavesOut => ?_⟩
  rw [resolve_eq, resolve_eq, resolver.statements_of_leavesOut leavesOut, searchError?,
    searchError?, findSome?_filterError?_of_leavesOut leavesOut]

/-- A range of days without ends; a third value is none of them. -/
def blankRange : Filter where
  field := "placed"
  operator := .between
  values := [.text " ", .null, .text "2024-01-31"]
  ignoreCase := true

theorem resolve_specimen_leavesOut :
    Specimen.orders.LeavesOut (blankRange :: Specimen.search.filters)
        (Specimen.search.filters.eraseIdx 1) ∧
      resolve {} Specimen.orders
          { Specimen.search with filters := Specimen.search.filters.eraseIdx 1 } =
        resolve {} Specimen.orders
          { Specimen.search with filters := blankRange :: Specimen.search.filters } := by
  have placed : ¬ Specimen.orders.Unmapped "placed" := Entity.isSome_column?_iff.mp rfl
  have id : ¬ Specimen.orders.Unmapped "id" :=
    Entity.isSome_column?_iff.mp (by decide +kernel)
  have blank : blankRange.IsIdle := Or.inl ⟨rfl, by decide⟩
  have leavesOut : Specimen.orders.LeavesOut (blankRange :: Specimen.search.filters)
      (Specimen.search.filters.eraseIdx 1) :=
    .drop blank placed (.keep _ (.drop (Or.inr ⟨rfl, rfl⟩) id (.keep _ .nil)))
  exact ⟨leavesOut, (resolve_leavesOut {} Specimen.orders
    { Specimen.search with filters := blankRange :: Specimen.search.filters }).2 _ leavesOut⟩

end Resolver

end EntitySearch
