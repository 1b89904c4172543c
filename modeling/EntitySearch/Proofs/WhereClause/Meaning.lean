import EntitySearch.Proofs.Assembly
import EntitySearch.Proofs.WhereClause.Conditions

/-!
# The where clause means the filters

Read with the precedence of SQL, the where clause of a search is a conjunction: the join condition
comes first, and then every filter that restricts something has one conjunct, in the order of the
search.
-/

namespace EntitySearch

open WhereClause

namespace WhereClause

/-- Conditions with `and` between them are read back one by one. -/
theorem readClause?_whereClause {conditions : List Fragment} {formulas : List Formula}
    (each : List.Forall₂ States conditions formulas) :
    readClause? (Resolver.whereClause conditions) = some formulas := by
  cases each with
  | nil => rfl
  | @cons first formula others formulas states rest =>
      obtain ⟨tokens, reads, conjuncts⟩ := exists_tokens (.cons states rest)
      have tokens_present : tokens ≠ [] := by
        rintro rfl
        cases reads
      have joined : Reads (Fragment.join " and " (first :: others))
          ([.keyword .and].intercalate tokens) := Reads.join (by simp) reads .and
      have clause_tokens : tokens? (Resolver.whereClause (first :: others)) =
          some ([.keyword .restrict] ++ [.keyword .and].intercalate tokens) :=
        tokens?_append (joined.trimmed.space_apart rfl) Keyword.restrict.tokens?_spaced
          joined.tokens
      obtain ⟨level, success, alternative, conditions⟩ :=
        run_conjuncts conjuncts tokens_present {} [] rfl
      have level_formulas : level.formulas = formula :: formulas := by
        rw [Level.formulas, alternative]
        exact conditions
      rw [readClause?, clause_tokens]
      simp [readLevel?, success, level_formulas]

end WhereClause

namespace Resolver

/-- The where clause of a search. -/
def restriction (resolver : Resolver) (entity : Entity) (search : Search) : Fragment :=
  whereClause (joinConditions entity search.bindings ++
    resolver.filterConditions entity search.filters)

/-- What the filter asks of a row, by way of the column of its field. -/
def Meets (resolver : Resolver) (entity : Entity) (filter : Filter) (engine : Engine) (row : Row) :
    Prop :=
  ∃ field ∈ entity.field? filter.field, ∃ column ∈ field.column?,
    filter.Holds engine field.type resolver.correction column row

/-- The formula is read as the filter on the column of its field. -/
def IsReadAs (resolver : Resolver) (entity : Entity) (filter : Filter) (formula : Formula) : Prop :=
  ∃ field ∈ entity.field? filter.field, ∃ column ∈ field.column?,
    filter.IsReadAs field.type resolver.correction column formula

/-- The where clause of both statements is read as the join condition and the filters. -/
structure RestrictsBy (resolver : Resolver) (entity : Entity) (search : Search)
    (resolution : Resolution) (joined filtered : List Formula) : Prop where
  listed : ∀ list ∈ resolution.list?, list.statement =
    resolver.dialect.paginate search.page (selectClause entity search.bindings ++
      (fromClause entity search.bindings ++ resolver.restriction entity search ++
        groupClause entity search.bindings) ++ orderClause entity search.order?)
  aggregated : ∀ cluster ∈ resolution.cluster?, ∃ before after, cluster.statement =
    before ++ (fromClause entity search.bindings ++ resolver.restriction entity search ++
      groupClause entity search.bindings) ++ after
  read : readClause? (resolver.restriction entity search) = some (joined ++ filtered)
  /-- A join condition is one conjunct, which it is also on its own. -/
  join : List.Forall₂
    (fun snippet formula => readCondition? (snippet.resolve search.bindings) = some formula)
    entity.joinCondition?.toList joined
  /-- Every filter that restricts something is one conjunct. -/
  filters : List.Forall₂ (resolver.IsReadAs entity) (search.filters.filter Filter.restricts)
    filtered
  /-- The clause holds of the rows of the join condition that all those filters ask for. -/
  keeps : ∀ engine row, (∀ formula ∈ joined ++ filtered, formula.truth engine row = .holds) ↔
    (∀ formula ∈ joined, formula.truth engine row = .holds) ∧
      ∀ filter ∈ search.filters, filter.restricts = true →
        resolver.Meets entity filter engine row

variable {resolver : Resolver} {entity : Entity} {search : Search}

theorem exists_joined {bindings : Bindings}
    (selfContained : ∀ snippet ∈ entity.joinCondition?, SelfContained (snippet.resolve bindings)) :
    ∃ joined, List.Forall₂ States (joinConditions entity bindings) joined ∧
      List.Forall₂
        (fun snippet formula => readCondition? (snippet.resolve bindings) = some formula)
        entity.joinCondition?.toList joined := by
  rw [joinConditions]
  cases present : entity.joinCondition? with
  | none => exact ⟨[], .nil, .nil⟩
  | some snippet =>
      obtain ⟨tokens, formula, fragment_tokens, alone, conjunct⟩ :=
        (selfContained snippet present).exists_condition
      exact ⟨[formula], .cons ⟨_, .parenthesized fragment_tokens, conjunct⟩ .nil,
        .cons alone .nil⟩

theorem exists_filtered (resolver : Resolver) {filters : List Filter}
    (mapped : ∀ filter ∈ filters, (entity.column? filter.field).isSome)
    (plain : ∀ filter ∈ filters, ∀ column ∈ entity.column? filter.field, IsColumn column) :
    ∃ filtered, List.Forall₂ States (resolver.filterConditions entity filters) filtered ∧
      List.Forall₂ (resolver.IsReadAs entity) (filters.filter Filter.restricts) filtered := by
  induction filters with
  | nil => exact ⟨[], .nil, .nil⟩
  | cons filter filters induction =>
      rw [List.forall_mem_cons] at mapped plain
      obtain ⟨filtered, states, read⟩ := induction mapped.2 plain.2
      obtain ⟨column, found⟩ := Option.isSome_iff_exists.mp mapped.1
      obtain ⟨field, field_found, column_found⟩ := Option.bind_eq_some_iff.mp found
      have condition : resolver.filterCondition entity filter =
          filter.condition? field.type column resolver.dialect resolver.correction := by
        simp [filterCondition, field_found, column_found]
      have restricts := filter.isSome_condition? field.type column resolver.dialect
        resolver.correction
      rw [filterConditions] at states ⊢
      rw [← condition] at restricts
      cases condition_found : resolver.filterCondition entity filter with
      | none =>
          rw [condition_found] at restricts
          rw [List.filterMap_cons_none condition_found,
            List.filter_cons_of_neg (by simp [← restricts])]
          exact ⟨filtered, states, read⟩
      | some fragment =>
          rw [condition_found] at restricts
          rw [condition] at condition_found
          obtain ⟨formula, formula_states, formula_read⟩ :=
            Filter.exists_formula (plain.1 column found) condition_found
          rw [List.filterMap_cons_some (condition.trans condition_found),
            List.filter_cons_of_pos restricts.symm]
          exact ⟨formula :: filtered, .cons formula_states states,
            .cons ⟨field, field_found, column, column_found, formula_read⟩ read⟩

theorem meets_iff {filter : Filter} {field : Field} {column : String} {engine : Engine} {row : Row}
    (field_found : entity.field? filter.field = some field)
    (column_found : field.column? = some column) :
    resolver.Meets entity filter engine row ↔
      filter.Holds engine field.type resolver.correction column row := by
  simp [Meets, field_found, column_found]

/-- All conjuncts of filters hold of the rows that all those filters ask for. -/
theorem forall_holds_iff {filters : List Filter} {filtered : List Formula}
    (read : List.Forall₂ (resolver.IsReadAs entity) filters filtered) (engine : Engine)
    (row : Row) :
    (∀ formula ∈ filtered, formula.truth engine row = .holds) ↔
      ∀ filter ∈ filters, resolver.Meets entity filter engine row := by
  induction read with
  | nil => simp
  | cons first others induction =>
      obtain ⟨field, field_found, column, column_found, first⟩ := first
      rw [List.forall_mem_cons, List.forall_mem_cons, induction, first.holds_iff,
        meets_iff field_found column_found]

/-- Whatever shape it takes, the aggregating statement holds the rows behind the select clause. -/
theorem exists_clusterStatement_eq (fetch : Fetch) (columns : List String) :
    ∃ before after,
      (clusterStatement entity fetch columns (resolver.aggregatedRows entity search)).statement =
        before ++ resolver.fromWhere entity search ++ after := by
  rw [clusterStatement_eq, aggregatedRows]
  cases distinct : entity.distinct with
  | true =>
      rw [if_pos rfl, if_pos rfl, ClusterStatement.overTable, Fragment.wrap, listedRows,
        ← Fragment.append_assoc]
      exact ⟨_, _, rfl⟩
  | false =>
      rw [if_neg Bool.false_ne_true, if_neg Bool.false_ne_true]
      split
      · exact ⟨_, _, rfl⟩
      · rw [ClusterStatement.overRows, ← Fragment.append_ofText_empty (_ ++ _)]
        exact ⟨_, _, rfl⟩

/-- The where clause of a search means the conjunction of its filters. -/
theorem resolve_restrictsBy {resolution : Resolution}
    (resolved : resolver.resolve entity search = .ok resolution)
    (plain : ∀ filter ∈ search.filters, ∀ column ∈ entity.column? filter.field, IsColumn column)
    (selfContained : ∀ snippet ∈ entity.joinCondition?,
      SelfContained (snippet.resolve search.bindings)) :
    ∃ joined filtered, resolver.RestrictsBy entity search resolution joined filtered := by
  obtain ⟨accepted, rfl⟩ := resolve_eq_ok_iff.mp resolved
  obtain ⟨joined, joined_states, join⟩ := exists_joined selfContained
  have mapped := (searchError?_eq_none_iff.mp accepted).1
  obtain ⟨filtered, filtered_states, filters⟩ := resolver.exists_filtered mapped plain
  refine ⟨joined, filtered, ?_, ?_, ?_, join, filters, ?_⟩
  · intro list present
    obtain ⟨-, rfl⟩ := mem_list?_statements.mp present
    rfl
  · intro cluster present
    obtain ⟨-, rfl⟩ := mem_cluster?_statements.mp present
    exact exists_clusterStatement_eq _ _
  · exact readClause?_whereClause (List.rel_append joined_states filtered_states)
  · intro engine row
    rw [List.forall_mem_append, forall_holds_iff filters]
    simp

/-- Of the three filters of the specimen, the one without values restricts nothing. -/
theorem resolve_specimen_restrictsBy :
    (∀ filter ∈ Specimen.search.filters, ∀ column ∈ Specimen.orders.column? filter.field,
      IsColumn column) ∧
    (∀ snippet ∈ Specimen.orders.joinCondition?,
      SelfContained (snippet.resolve Specimen.search.bindings)) ∧
    ∃ resolution joined filtered,
      resolve { dialect := .oracle } Specimen.orders Specimen.search = .ok resolution ∧
        RestrictsBy { dialect := .oracle } Specimen.orders Specimen.search resolution joined
          filtered ∧ joined.length = 1 ∧ filtered.length = 2 := by
  have resolved := Specimen.resolve_search { dialect := .oracle }
  have plain : ∀ filter ∈ Specimen.search.filters,
      ∀ column ∈ Specimen.orders.column? filter.field, IsColumn column := by
    decide +kernel
  have selfContained : ∀ snippet ∈ Specimen.orders.joinCondition?,
      SelfContained (snippet.resolve Specimen.search.bindings) := by
    decide +kernel
  obtain ⟨joined, filtered, restricts⟩ := resolve_restrictsBy resolved plain selfContained
  exact ⟨plain, selfContained, _, joined, filtered, resolved, restricts,
    restricts.join.length_eq.symm, restricts.filters.length_eq.symm⟩

/-- The rows of a table that meet a condition of the entity's own. -/
def joinedBy (condition : String) : Entity where
  table := .ofText "items t"
  fields :=
    { toList := [.ofMapping "n" (.selected "t.n" .text)]
      names_nodup := by decide
      labels_nodup := by decide }
  joinCondition? := some (.ofText condition)
  grouping? := none
  distinct := false
  table_notBlank := by decide +kernel

/-- The rows of which the field has the value. -/
def namedSearch : Search where
  fetch := .listOnly
  filters := [{ field := "n", operator := .equal, values := [.text "x"] }]

/-- The parentheses of the join condition balance and the filter restricts a plain column, but the
where clause is not read as the condition and the filter. -/
def Misread (condition : String) : Prop :=
  depthAfter 0 condition.toList = some 0 ∧
    (∀ filter ∈ namedSearch.filters, ∀ column ∈ (joinedBy condition).column? filter.field,
      IsColumn column) ∧
    ∃ resolution, resolve {} (joinedBy condition) namedSearch = .ok resolution ∧
      ¬∃ joined filtered, RestrictsBy {} (joinedBy condition) namedSearch resolution joined filtered

theorem misread_of_unread {condition : String}
    (balanced : depthAfter 0 condition.toList = some 0)
    (plain : ∀ filter ∈ namedSearch.filters,
      ∀ column ∈ (joinedBy condition).column? filter.field, IsColumn column)
    (accepted : searchError? (joinedBy condition) namedSearch = none)
    (unread : readClause? (restriction {} (joinedBy condition) namedSearch) = none) :
    Misread condition := by
  refine ⟨balanced, plain, _, resolve_eq_ok_iff.mpr ⟨accepted, rfl⟩, ?_⟩
  rintro ⟨joined, filtered, restricts⟩
  rw [restricts.read] at unread
  cases unread

/-- A placeholder without a value takes the value of the filter from it, and an open quotation takes
in the text of the filter. -/
theorem misread_open : Misread "t.a = ?" ∧ Misread "t.a = 'x" := by
  constructor
  · exact misread_of_unread (by decide +kernel) (by decide +kernel) (by decide +kernel)
      (by decide +kernel)
  · exact misread_of_unread (by decide +kernel) (by decide +kernel) (by decide +kernel)
      (by decide +kernel)

end Resolver

end EntitySearch
