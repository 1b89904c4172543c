import EntitySearch.Proofs.ValueIndependence

/-!
# Bindings that make no difference

A search gets from its bindings the values of the parameters that the texts of its entity have.  A
name without a value counts as null there: a bound parameter binds null, and a literal one leaves
nothing, which is what a null leaves.  So nulls may be bound to names without a value, and names
that no text mentions may be bound to anything.
-/

namespace EntitySearch

namespace Bindings

variable {bindings : Bindings} {name : String}

/-- A literal parameter leaves the text of its value, and nothing without one. -/
theorem literalText_eq (bindings : Bindings) (name : String) :
    bindings.literalText name = (bindings.get? name).elim [] (·.literal.toList) := by
  rw [literalText, value]
  cases bindings.get? name <;> rfl

theorem literalText_of_absent (absent : bindings.get? name = none) :
    bindings.literalText name = [] := by
  rw [literalText_eq, absent, Option.elim_none]

theorem literalText_of_null (null : bindings.get? name = some .null) :
    bindings.literalText name = [] := by
  rw [literalText_eq, null, Option.elim_some]
  rfl

/-- The name has one value in both bindings, or it has none in the first and null in the second. -/
def GainsAtMostNull (before after : Bindings) (name : String) : Prop :=
  after.get? name = before.get? name ∨ before.get? name = none ∧ after.get? name = some .null

variable {before after : Bindings}

theorem GainsAtMostNull.value (gains : before.GainsAtMostNull after name) :
    after.value name = before.value name := by
  rw [Bindings.value, Bindings.value]
  rcases gains with same | ⟨absent, null⟩
  · rw [same]
  · rw [absent, null]
    rfl

theorem GainsAtMostNull.literalText (gains : before.GainsAtMostNull after name) :
    after.literalText name = before.literalText name := by
  rcases gains with same | ⟨absent, null⟩
  · rw [literalText_eq, literalText_eq, same]
  · rw [literalText_of_absent absent, literalText_of_null null]

end Bindings

namespace Snippet

variable {snippet : Snippet} {before after : Bindings}

theorem boundValues_congr
    (agree : ∀ name, .marker ⟨name, .bound⟩ ∈ snippet.pieces →
      after.value name = before.value name) :
    snippet.boundValues after = snippet.boundValues before := by
  refine List.filterMap_congr fun marker occurs => ?_
  obtain ⟨piece, member, read⟩ := List.mem_filterMap.mp occurs
  obtain ⟨name, _ | _⟩ := marker
  · cases piece with
    | plain => cases read
    | marker marker =>
        cases read
        rw [Marker.boundValue?_bound, Marker.boundValue?_bound, agree name member]
  · rfl

/-- A snippet looks up the names of its markers only. -/
theorem resolve_congr
    (gains : ∀ name kind, .marker ⟨name, kind⟩ ∈ snippet.pieces →
      before.GainsAtMostNull after name) :
    snippet.resolve after = snippet.resolve before := by
  have literals : ∀ name ∈ snippet.literalNames,
      after.literalText name = before.literalText name := fun name member =>
    (gains name .literal (mem_literalNames.mp member)).literalText
  have bound := boundValues_congr fun name member => (gains name .bound member).value
  ext1
  · apply String.toList_inj.mp
    rw [toList_sql_resolve, toList_sql_resolve, spliceAll_congr literals]
  · rw [params_resolve, params_resolve, bound]

end Snippet

namespace Entity

variable {entity : Entity} {bindings before after last : Bindings} {name : String}

/-- A selected expression, the table, the join condition or the grouping has a marker with the
name. -/
def Mentions (entity : Entity) (name : String) : Prop :=
  ∃ snippet ∈ entity.snippets, ∃ kind, .marker ⟨name, kind⟩ ∈ snippet.pieces

/-- Of the names that the texts of the entity mention, those without a value may have become null,
and the others have the values they had. -/
def Overlooks (entity : Entity) (before after : Bindings) : Prop :=
  ∀ name, entity.Mentions name → before.GainsAtMostNull after name

theorem overlooks_insert_null (absent : bindings.get? name = none) :
    entity.Overlooks bindings (bindings.insert name .null) := by
  intro other _
  by_cases same : other = name
  · subst same
    exact Or.inr ⟨absent, Bindings.get?_insert_self ..⟩
  · exact Or.inl (Bindings.get?_insert_of_ne _ _ same)

/-- A name that is not mentioned may get a value, lose it or have another one. -/
theorem overlooks_of_unmentioned (unmentioned : ¬ entity.Mentions name)
    (elsewhere : ∀ other, other ≠ name → after.get? other = before.get? other) :
    entity.Overlooks before after := by
  intro other mentioned
  refine Or.inl (elsewhere other ?_)
  rintro rfl
  exact unmentioned mentioned

theorem Overlooks.trans (first : entity.Overlooks before after)
    (second : entity.Overlooks after last) : entity.Overlooks before last := by
  intro name mentioned
  rcases first name mentioned with same | ⟨absent, null⟩
  · rcases second name mentioned with same' | ⟨absent', null'⟩
    · exact Or.inl (same'.trans same)
    · exact Or.inr ⟨same ▸ absent', null'⟩
  · rcases second name mentioned with same' | ⟨absent', -⟩
    · exact Or.inr ⟨absent, same'.trans null⟩
    · rw [null] at absent'
      cases absent'

end Entity

namespace Resolver

variable {resolver : Resolver} {entity : Entity} {search : Search}

section clauses

variable {before after : Bindings}
  (same : ∀ snippet ∈ entity.snippets, snippet.resolve after = snippet.resolve before)

include same

theorem selectClause_congr : selectClause entity after = selectClause entity before := by
  rw [selectClause, selectClause]
  congr 2
  apply List.map_congr_left
  rintro ⟨field, snippet⟩ selected
  simp only [same snippet (Entity.mem_snippets_of_selections selected)]

theorem fromClause_congr : fromClause entity after = fromClause entity before := by
  rw [fromClause, fromClause, same entity.table entity.table_mem_snippets]

theorem joinConditions_congr : joinConditions entity after = joinConditions entity before := by
  apply List.map_congr_left
  intro snippet present
  rw [same snippet (Entity.mem_snippets_of_joinCondition? (Option.mem_toList.mp present))]

theorem groupClause_congr : groupClause entity after = groupClause entity before := by
  rw [groupClause, groupClause]
  split
  · rfl
  · rename_i snippet grouping
    rw [same snippet (Entity.mem_snippets_of_grouping? grouping)]

end clauses

/-- The statements depend on the bindings by way of the resolved texts of the entity. -/
theorem statements_congr {bindings : Bindings}
    (same : ∀ snippet ∈ entity.snippets,
      snippet.resolve bindings = snippet.resolve search.bindings) :
    resolver.statements entity { search with bindings } = resolver.statements entity search := by
  have rows : resolver.fromWhere entity { search with bindings } =
      resolver.fromWhere entity search := by
    simp only [fromWhere, fromClause_congr same, joinConditions_congr same,
      groupClause_congr same]
  simp only [statements, listedRows, aggregatedRows, rows, selectClause_congr same]
  rfl

/-- Nulls for names without a value, and any values for names that no text mentions, change neither
the statements nor the error of a search. -/
theorem resolve_overlooks (resolver : Resolver) {entity : Entity} {search : Search}
    {bindings : Bindings} (overlooks : entity.Overlooks search.bindings bindings) :
    resolver.resolve entity { search with bindings } = resolver.resolve entity search := by
  have same : ∀ snippet ∈ entity.snippets,
      snippet.resolve bindings = snippet.resolve search.bindings :=
    fun snippet member => Snippet.resolve_congr fun name kind occurs =>
      overlooks name ⟨snippet, member, kind, occurs⟩
  rw [resolve_eq, resolve_eq, statements_congr same]
  rfl

/-- The search of the specimen, with a value for the tenant alone. -/
def tenantSearch : Search := { Specimen.search with bindings := .ofList [("tenant", .integer 7)] }

/-- The tenant, nulls for the literal and the bound parameter without a value, and a value for a
name that no text mentions. -/
def paddedBindings : Bindings :=
  ((tenantSearch.bindings.insert "year" .null).insert "untitled" .null).insert "title"
    (.text ":year:")

theorem resolve_specimen_overlooks :
    Specimen.orders.Overlooks tenantSearch.bindings paddedBindings ∧
      ∃ resolution, resolve {} Specimen.orders tenantSearch = .ok resolution ∧
        resolve {} Specimen.orders { tenantSearch with bindings := paddedBindings } =
          .ok resolution := by
  have others : ∀ snippet ∈ Specimen.orders.snippets, ∀ marker ∈ snippet.markers,
      marker.name ≠ "title" := by decide +kernel
  have unmentioned : ¬ Specimen.orders.Mentions "title" := by
    rintro ⟨snippet, member, kind, occurs⟩
    exact others snippet member _ (Snippet.mem_markers.mpr occurs) rfl
  have overlooks : Specimen.orders.Overlooks tenantSearch.bindings paddedBindings :=
    ((Entity.overlooks_insert_null (by decide)).trans
      (Entity.overlooks_insert_null (by decide))).trans
      (Entity.overlooks_of_unmentioned unmentioned fun _ different =>
        Bindings.get?_insert_of_ne _ _ different)
  have resolved : resolve {} Specimen.orders tenantSearch =
      .ok (statements {} Specimen.orders tenantSearch) :=
    resolve_eq_ok_iff.mpr ⟨Specimen.searchError?_search, rfl⟩
  exact ⟨overlooks, _, resolved, (resolve_overlooks {} overlooks).trans resolved⟩

end Resolver

end EntitySearch
