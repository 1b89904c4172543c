import EntitySearch.Proofs.WellFormedEntities

/-!
# Fields without columns

A search fails only on a field that has no column.  All filters are looked at before all sums, and
of the filters, or of the sums, the first on such a field is the one that is reported.
-/

namespace EntitySearch

namespace Entity

variable {entity : Entity} {name : String}

/-- No field with the name has a column. -/
def Unmapped (entity : Entity) (name : String) : Prop :=
  ∀ field ∈ entity.fields.toList, field.name = name → field.column? = none

/-- The name is the first one in the list that is unmapped. -/
def FirstUnmapped (entity : Entity) (names : List String) (name : String) : Prop :=
  ∃ before after, names = before ++ name :: after ∧
    (∀ earlier ∈ before, ¬ entity.Unmapped earlier) ∧ entity.Unmapped name

theorem column?_eq_none_iff : entity.column? name = none ↔ entity.Unmapped name := by
  rw [column?, Option.bind_eq_none_iff]
  constructor
  · intro unmapped field member named
    exact unmapped field (field?_eq_some_iff.mpr ⟨member, named⟩)
  · intro unmapped field found
    obtain ⟨member, named⟩ := mem_of_field? found
    exact unmapped field member named

theorem isSome_column?_iff : (entity.column? name).isSome ↔ ¬ entity.Unmapped name := by
  rw [← column?_eq_none_iff, Option.isSome_iff_ne_none]

end Entity

namespace Resolver

variable {resolver : Resolver} {entity : Entity} {search : Search} {error : SearchError}

/-- The error of a field without a column. -/
def unmappedError? (entity : Entity) (complain : String → SearchError) (name : String) :
    Option SearchError :=
  if (entity.column? name).isSome then none else some (complain name)

theorem unmappedError?_of_mapped {complain : String → SearchError} {name : String}
    (mapped : ¬ entity.Unmapped name) : unmappedError? entity complain name = none :=
  if_pos (Entity.isSome_column?_iff.mpr mapped)

theorem unmappedError?_of_unmapped {complain : String → SearchError} {name : String}
    (unmapped : entity.Unmapped name) :
    unmappedError? entity complain name = some (complain name) :=
  if_neg fun mapped => Entity.isSome_column?_iff.mp mapped unmapped

theorem unmappedError?_eq_none_iff {complain : String → SearchError} {name : String} :
    unmappedError? entity complain name = none ↔ ¬ entity.Unmapped name := by
  refine ⟨fun accepted unmapped => ?_, unmappedError?_of_mapped⟩
  rw [unmappedError?_of_unmapped unmapped] at accepted
  cases accepted

theorem unmappedError?_eq_some_iff {complain : String → SearchError} {name : String} :
    unmappedError? entity complain name = some error ↔
      entity.Unmapped name ∧ error = complain name := by
  by_cases unmapped : entity.Unmapped name
  · rw [unmappedError?_of_unmapped unmapped, Option.some.injEq, eq_comm]
    exact (and_iff_right unmapped).symm
  · simp [unmappedError?_of_mapped, unmapped]

/-- Going through names stops at the first that is unmapped. -/
theorem findSome?_unmappedError?_eq_some_iff {complain : String → SearchError}
    {names : List String} :
    names.findSome? (unmappedError? entity complain) = some error ↔
      ∃ name, entity.FirstUnmapped names name ∧ error = complain name := by
  simp only [List.findSome?_eq_some_iff, unmappedError?_eq_none_iff, unmappedError?_eq_some_iff,
    Entity.FirstUnmapped]
  constructor
  · rintro ⟨before, name, after, split, ⟨unmapped, rfl⟩, earlier⟩
    exact ⟨name, ⟨before, after, split, earlier, unmapped⟩, rfl⟩
  · rintro ⟨name, ⟨before, after, split, earlier, unmapped⟩, rfl⟩
    exact ⟨before, name, after, split, ⟨unmapped, rfl⟩, earlier⟩

theorem searchError?_eq_unmapped (entity : Entity) (search : Search) :
    searchError? entity search =
      ((search.filters.map (·.field)).findSome? (unmappedError? entity .unmappedFilterField) <|>
        search.fetch.summaryFields.findSome? (unmappedError? entity .unmappedSummaryField)) := by
  rw [searchError?, List.findSome?_map]
  rfl

/-- The first error of a search that has one: filters come before sums. -/
theorem searchError?_eq_some_iff :
    searchError? entity search = some error ↔
      (∃ name, entity.FirstUnmapped (search.filters.map (·.field)) name ∧
        error = .unmappedFilterField name) ∨
      (∀ filter ∈ search.filters, ¬ entity.Unmapped filter.field) ∧
        ∃ name, entity.FirstUnmapped search.fetch.summaryFields name ∧
          error = .unmappedSummaryField name := by
  rw [searchError?_eq_unmapped, Option.orElse_eq_orElse, Option.orElse_eq_or, Option.or_eq_some_iff,
    List.findSome?_eq_none_iff, findSome?_unmappedError?_eq_some_iff,
    findSome?_unmappedError?_eq_some_iff]
  simp [unmappedError?_eq_none_iff]

/-- How a search ends, by which of its fields have no column. -/
structure EndsBy (entity : Entity) (search : Search) (outcome : Except SearchError Resolution) :
    Prop where
  filter_iff : ∀ name, outcome = .error (.unmappedFilterField name) ↔
    entity.FirstUnmapped (search.filters.map (·.field)) name
  /-- A sum is reported only when all filters have columns. -/
  summary_iff : ∀ name, outcome = .error (.unmappedSummaryField name) ↔
    (∀ filter ∈ search.filters, ¬ entity.Unmapped filter.field) ∧
      entity.FirstUnmapped search.fetch.summaryFields name
  /-- There is no other reason to fail. -/
  ok_iff : (∃ resolution, outcome = .ok resolution) ↔
    (∀ filter ∈ search.filters, ¬ entity.Unmapped filter.field) ∧
      ∀ name ∈ search.fetch.summaryFields, ¬ entity.Unmapped name

/-- A search fails exactly on unmapped fields, and the first of them is the error. -/
theorem resolve_endsBy (resolver : Resolver) (entity : Entity) (search : Search) :
    EndsBy entity search (resolver.resolve entity search) where
  filter_iff name := by
    rw [resolve_eq_error_iff, searchError?_eq_some_iff]
    simp
  summary_iff name := by
    rw [resolve_eq_error_iff, searchError?_eq_some_iff]
    simp
  ok_iff := by
    simp only [resolve_eq_ok_iff, exists_and_left, exists_eq, and_true]
    rw [searchError?_eq_none_iff]
    simp only [Entity.isSome_column?_iff]

end Resolver

end EntitySearch
