import EntitySearch.Proofs.Assembly
import EntitySearch.Proofs.Blankness
import EntitySearch.Proofs.Snippet.Resolve
import Mathlib.Data.List.Forall2

/-!
# Values stay out of statements

The values of a search reach the text of its statements through literal parameters only.  Of every
other value the text depends on no more than whether it is there, and of the values of filters on
whether they are null and whether they are blank.

Statements are compared with all of their values forgotten, which putting pieces together commutes
with.
-/

namespace EntitySearch

/-! ## Forgetting values -/

namespace Fragment

/-- The same text with null for every value. -/
def withoutValues (statement : Fragment) : Fragment :=
  ⟨statement.sql, statement.params.map fun _ => .null⟩

theorem withoutValues_eq_iff {left right : Fragment} :
    left.withoutValues = right.withoutValues ↔
      left.sql = right.sql ∧ left.params.length = right.params.length := by
  simp [withoutValues, List.map_const']

@[simp]
theorem withoutValues_ofText (text : String) : (ofText text).withoutValues = ofText text := rfl

@[simp]
theorem withoutValues_append (left right : Fragment) :
    (left ++ right).withoutValues = left.withoutValues ++ right.withoutValues := by
  ext <;> simp [withoutValues]

@[simp]
theorem withoutValues_wrap (before : String) (part : Fragment) (after : String) :
    (part.wrap before after).withoutValues = part.withoutValues.wrap before after := by
  simp [wrap]

@[simp]
theorem withoutValues_join (separator : String) (parts : List Fragment) :
    (join separator parts).withoutValues = join separator (parts.map withoutValues) := by
  fun_induction join separator parts with
  | case1 => rfl
  | case2 part => rfl
  | case3 part next parts induction => simp [induction, join]

end Fragment

/-! ## Snippets -/

theorem spliceAll_congr {left right : Bindings} {names : List String}
    (agree : ∀ name ∈ names, left.literalText name = right.literalText name) (text : List Char) :
    spliceAll left names text = spliceAll right names text := by
  induction names generalizing text with
  | nil => rfl
  | cons name names induction =>
      simp only [List.forall_mem_cons] at agree
      simp only [spliceAll, List.foldl_cons, agree.1] at induction ⊢
      exact induction agree.2 _

namespace Snippet

theorem length_boundValues (snippet : Snippet) (left right : Bindings) :
    (snippet.boundValues left).length = (snippet.boundValues right).length := by
  simp only [boundValues]
  induction snippet.occurrences with
  | nil => rfl
  | cons marker markers induction =>
      obtain ⟨name, _ | _⟩ := marker
      · simpa [List.filterMap_cons] using induction
      · simpa [List.filterMap_cons] using induction

/-- Values of bound parameters stay out of the text of a snippet. -/
theorem withoutValues_resolve {snippet : Snippet} {left right : Bindings}
    (agree : ∀ name ∈ snippet.literalNames, left.literalText name = right.literalText name) :
    (snippet.resolve left).withoutValues = (snippet.resolve right).withoutValues := by
  rw [Fragment.withoutValues_eq_iff]
  constructor
  · apply String.toList_inj.mp
    rw [toList_sql_resolve, toList_sql_resolve, spliceAll_congr agree]
  · rw [params_resolve, params_resolve]
    exact snippet.length_boundValues left right

end Snippet

/-! ## Conditions -/

/-- What conditions ask of a value: whether it is null and whether it is blank. -/
def Value.outline (value : Value) : Bool × Bool := (value.isNull, value.isBlank)

theorem Correction.map_outline_apply (correction : Correction) (operator : Operator)
    (values : List Value) :
    (correction.apply operator values).map Value.outline = values.map Value.outline := by
  cases correction with
  | none => rfl
  | dates =>
      apply List.ext_getElem
      · simp [apply]
      · intro position _ _
        simp [apply, Value.outline]

/-- Neither correction nor upper case changes what conditions ask of the values of a filter. -/
theorem Filter.map_outline_boundValues (filter : Filter) (type : FieldType)
    (correction : Correction) :
    (filter.boundValues type correction).map Value.outline = filter.values.map Value.outline := by
  have upper (values : List Value) :
      (values.map Value.upper).map Value.outline = values.map Value.outline := by
    simp [Function.comp_def, Value.outline]
  rw [boundValues]
  split <;> split <;> simp only [upper, correction.map_outline_apply]

namespace Condition

variable {column compared : String} {values others : List Value}

theorem withoutValues_isValue (value : Value) :
    (isValue column compared value).withoutValues =
      if value.outline.1 then isNull column else compare compared "=" .null := by
  rw [isValue, Value.outline]
  split <;> rfl

/-- The bound of a range at a position. -/
def bound? (values : List Value) (position : Nat) : Option Value :=
  values[position]?.filter fun value => !value.isBlank

theorem isSome_bound? (alike : values.map Value.outline = others.map Value.outline)
    (position : Nat) : (bound? values position).isSome = (bound? others position).isSome := by
  have blank := congrArg (·[position]?.map Prod.snd) alike
  simp only [List.getElem?_map, Option.map_map] at blank
  rw [bound?, bound?]
  cases left : values[position]? <;> cases right : others[position]? <;>
    simp_all [Value.outline, Option.isSome_filter]

theorem withoutValues_between? (alike : values.map Value.outline = others.map Value.outline) :
    (between? column values).map Fragment.withoutValues =
      (between? column others).map Fragment.withoutValues := by
  have lower := isSome_bound? alike 0
  have upper := isSome_bound? alike 1
  simp only [bound?] at lower upper
  simp only [between?]
  -- Both ranges are open at the same ends, so of the pairs of cases four remain.
  split <;> split <;> simp_all <;> rfl

theorem withoutValues_oneOf? (alike : values.map Value.outline = others.map Value.outline) :
    (oneOf? column compared values).map Fragment.withoutValues =
      (oneOf? column compared others).map Fragment.withoutValues := by
  have empty : values.isEmpty = others.isEmpty := by
    simpa using congrArg List.isEmpty alike
  have each : (values.map (isValue column compared)).map Fragment.withoutValues =
      (others.map (isValue column compared)).map Fragment.withoutValues := by
    have same := congrArg (List.map fun outline : Bool × Bool =>
      if outline.1 then isNull column else compare compared "=" .null) alike
    simpa [Function.comp_def, withoutValues_isValue] using same
  rw [oneOf?, oneOf?, empty]
  split
  · rfl
  · simp only [Option.map_some, Fragment.withoutValues_wrap, Fragment.withoutValues_join, each]

/-- The text of a condition depends on the outlines of its values only. -/
theorem withoutValues_ofOperator? (operator : Operator)
    (alike : values.map Value.outline = others.map Value.outline) :
    (ofOperator? operator column compared values).map Fragment.withoutValues =
      (ofOperator? operator column compared others).map Fragment.withoutValues := by
  cases operator with
  | between => exact withoutValues_between? alike
  | oneOf => exact withoutValues_oneOf? alike
  | _ => rfl

end Condition

namespace Filter

/-- The filters differ at most in their values, which conditions cannot tell apart. -/
structure Alike (left right : Filter) : Prop where
  /-- One field is restricted. -/
  field : left.field = right.field
  /-- The same is asked of the field. -/
  operator : left.operator = right.operator
  /-- Case counts in both or in neither. -/
  ignoreCase : left.ignoreCase = right.ignoreCase
  /-- There are as many values, and at every position both are null or neither is, and both are
  blank or neither is. -/
  values : left.values.map Value.outline = right.values.map Value.outline

theorem Alike.withoutValues_condition? {left right : Filter} (alike : left.Alike right)
    (type : FieldType) (column : String) (dialect : Dialect) (correction : Correction) :
    (left.condition? type column dialect correction).map Fragment.withoutValues =
      (right.condition? type column dialect correction).map Fragment.withoutValues := by
  have values : (left.boundValues type correction).map Value.outline =
      (right.boundValues type correction).map Value.outline := by
    rw [map_outline_boundValues, map_outline_boundValues, alike.values]
  rw [condition?, condition?, comparedColumn, comparedColumn, alike.operator, alike.ignoreCase]
  exact Condition.withoutValues_ofOperator? _ values

end Filter

/-! ## Statements -/

/-- The bindings agree on the texts of the literal parameters of an entity. -/
def Entity.LiteralsAgree (entity : Entity) (left right : Bindings) : Prop :=
  ∀ snippet ∈ entity.snippets, ∀ name ∈ snippet.literalNames,
    left.literalText name = right.literalText name

/-- The searches differ at most in values that are bound to placeholders. -/
structure Search.Alike (left : Search) (entity : Entity) (right : Search) : Prop where
  /-- The same is fetched. -/
  fetch : left.fetch = right.fetch
  /-- The list is sorted alike. -/
  order? : left.order? = right.order?
  /-- The filters differ at most in their values. -/
  filters : List.Forall₂ Filter.Alike left.filters right.filters
  /-- Both lists are cut down to a page, or neither is. -/
  page : left.page.max?.isSome = right.page.max?.isSome
  /-- The texts of literal parameters agree. -/
  literals : entity.LiteralsAgree left.bindings right.bindings

theorem Dialect.withoutValues_paginate (dialect : Dialect) {page other : Page}
    (bounded : page.max?.isSome = other.max?.isSome) {left right : Fragment}
    (same : left.withoutValues = right.withoutValues) :
    (dialect.paginate page left).withoutValues = (dialect.paginate other right).withoutValues := by
  rw [Fragment.withoutValues_eq_iff] at same ⊢
  obtain ⟨offset, _ | max⟩ := page <;> obtain ⟨offset', _ | max'⟩ := other
  · exact same
  · cases bounded
  · cases bounded
  · cases dialect <;> simp [paginate, same]

/-- The statement with null for every value. -/
def ListStatement.withoutValues (list : ListStatement) : ListStatement :=
  { list with statement := list.statement.withoutValues }

/-- The statement with null for every value. -/
def ClusterStatement.withoutValues (cluster : ClusterStatement) : ClusterStatement :=
  { cluster with statement := cluster.statement.withoutValues }

/-- The statements with null for every value. -/
def Resolution.withoutValues (resolution : Resolution) : Resolution :=
  ⟨resolution.list?.map (·.withoutValues), resolution.cluster?.map (·.withoutValues)⟩

namespace Resolver

variable {resolver : Resolver} {entity : Entity}

section clauses

variable {left right : Bindings}

theorem withoutValues_selectClause (agree : entity.LiteralsAgree left right) :
    (selectClause entity left).withoutValues = (selectClause entity right).withoutValues := by
  simp only [selectClause, Fragment.withoutValues_append, Fragment.withoutValues_ofText,
    Fragment.withoutValues_join, List.map_map]
  congr 2
  apply List.map_congr_left
  intro selection selected
  have known := Entity.mem_snippets_of_selections selected
  simp [Snippet.withoutValues_resolve (agree selection.2 known)]

theorem withoutValues_fromClause (agree : entity.LiteralsAgree left right) :
    (fromClause entity left).withoutValues = (fromClause entity right).withoutValues := by
  simp only [fromClause, Fragment.withoutValues_append,
    Snippet.withoutValues_resolve (agree entity.table entity.table_mem_snippets)]

theorem withoutValues_groupClause (agree : entity.LiteralsAgree left right) :
    (groupClause entity left).withoutValues = (groupClause entity right).withoutValues := by
  rw [groupClause, groupClause]
  split
  · rfl
  · rename_i snippet grouping
    have known := Entity.mem_snippets_of_grouping? grouping
    simp only [Fragment.withoutValues_append, Snippet.withoutValues_resolve (agree snippet known)]

theorem withoutValues_joinConditions (agree : entity.LiteralsAgree left right) :
    (joinConditions entity left).map Fragment.withoutValues =
      (joinConditions entity right).map Fragment.withoutValues := by
  simp only [joinConditions, List.map_map]
  apply List.map_congr_left
  intro snippet present
  have known := Entity.mem_snippets_of_joinCondition? (Option.mem_toList.mp present)
  simp [Snippet.withoutValues_resolve (agree snippet known)]

theorem withoutValues_whereClause (conditions : List Fragment) :
    (whereClause conditions).withoutValues =
      whereClause (conditions.map Fragment.withoutValues) := by
  rw [whereClause, whereClause, List.isEmpty_map]
  split <;> simp

end clauses

theorem withoutValues_filterCondition {left right : Filter} (alike : left.Alike right) :
    (resolver.filterCondition entity left).map Fragment.withoutValues =
      (resolver.filterCondition entity right).map Fragment.withoutValues := by
  rw [filterCondition, filterCondition, alike.field]
  cases entity.field? right.field with
  | none => rfl
  | some field =>
      cases column : field.column? with
      | none => simp [column]
      | some column' =>
          simpa [column] using alike.withoutValues_condition? field.type column'
            resolver.dialect resolver.correction

theorem withoutValues_filterConditions {left right : List Filter}
    (alike : List.Forall₂ Filter.Alike left right) :
    (resolver.filterConditions entity left).map Fragment.withoutValues =
      (resolver.filterConditions entity right).map Fragment.withoutValues := by
  simp only [filterConditions, List.map_filterMap]
  induction alike with
  | nil => rfl
  | cons alike _ induction =>
      rw [List.filterMap_cons, List.filterMap_cons, withoutValues_filterCondition alike, induction]

theorem findSome?_filterError? {left right : List Filter}
    (alike : List.Forall₂ Filter.Alike left right) :
    left.findSome? (filterError? entity) = right.findSome? (filterError? entity) := by
  induction alike with
  | nil => rfl
  | cons alike _ induction =>
      rw [List.findSome?_cons, List.findSome?_cons, induction, filterError?, filterError?,
        alike.field]

section statements

variable {search other : Search}

theorem searchError?_eq_of_alike (alike : search.Alike entity other) :
    searchError? entity search = searchError? entity other := by
  rw [searchError?, searchError?, findSome?_filterError? alike.filters, alike.fetch]

theorem withoutValues_fromWhere (alike : search.Alike entity other) :
    (resolver.fromWhere entity search).withoutValues =
      (resolver.fromWhere entity other).withoutValues := by
  simp only [fromWhere, Fragment.withoutValues_append, withoutValues_whereClause, List.map_append,
    withoutValues_fromClause alike.literals, withoutValues_joinConditions alike.literals,
    withoutValues_filterConditions alike.filters, withoutValues_groupClause alike.literals]

theorem withoutValues_listedRows (alike : search.Alike entity other) :
    (resolver.listedRows entity search).withoutValues =
      (resolver.listedRows entity other).withoutValues := by
  rw [listedRows, listedRows, Fragment.withoutValues_append, Fragment.withoutValues_append,
    withoutValues_selectClause alike.literals, withoutValues_fromWhere alike]

theorem withoutValues_aggregatedRows (alike : search.Alike entity other) :
    (resolver.aggregatedRows entity search).withoutValues =
      (resolver.aggregatedRows entity other).withoutValues := by
  rw [aggregatedRows, aggregatedRows]
  split
  · exact withoutValues_listedRows alike
  · exact withoutValues_fromWhere alike

theorem withoutValues_listStatement (alike : search.Alike entity other) :
    (resolver.listStatement entity search (resolver.listedRows entity search)).withoutValues =
      (resolver.listStatement entity other (resolver.listedRows entity other)).withoutValues := by
  have sorted : (resolver.listedRows entity search ++
      orderClause entity search.order?).withoutValues =
        (resolver.listedRows entity other ++ orderClause entity other.order?).withoutValues := by
    rw [Fragment.withoutValues_append, Fragment.withoutValues_append,
      withoutValues_listedRows alike, alike.order?]
  simp only [ListStatement.withoutValues, listStatement,
    Dialect.withoutValues_paginate resolver.dialect alike.page sorted]

/-- The aggregating statement is put together from the text of its rows alone. -/
theorem withoutValues_clusterStatement (fetch : Fetch) (columns : List String) (rows : Fragment) :
    (clusterStatement entity fetch columns rows).withoutValues =
      clusterStatement entity fetch columns rows.withoutValues := by
  have sql : rows.withoutValues.sql = rows.sql := rfl
  simp only [ClusterStatement.withoutValues, clusterStatement, sql,
    apply_ite Fragment.withoutValues, Fragment.withoutValues_wrap]

theorem withoutValues_statements (alike : search.Alike entity other) :
    (resolver.statements entity search).withoutValues =
      (resolver.statements entity other).withoutValues := by
  simp only [Resolution.withoutValues, statements, apply_ite (Option.map _), Option.map_some,
    withoutValues_clusterStatement, withoutValues_listStatement alike,
    withoutValues_aggregatedRows alike, alike.fetch]

end statements

end Resolver

namespace Resolution

/-- The resolutions differ at most in the values of their statements. -/
structure Alike (left right : Resolution) : Prop where
  /-- Both list rows by one text or neither does. -/
  listText : left.list?.map (·.statement.sql) = right.list?.map (·.statement.sql)
  /-- The columns of the list have the same labels. -/
  labels : left.list?.map (·.labels) = right.list?.map (·.labels)
  /-- The lists bind as many values. -/
  listValues : left.list?.map (·.statement.params.length) =
    right.list?.map (·.statement.params.length)
  /-- Both aggregate rows by one text or neither does. -/
  clusterText : left.cluster?.map (·.statement.sql) = right.cluster?.map (·.statement.sql)
  /-- The columns of the counts have the same name. -/
  countName : left.cluster?.map (·.countName?) = right.cluster?.map (·.countName?)
  /-- The columns of the sums have the same names. -/
  sumNames : left.cluster?.map (·.sumNames) = right.cluster?.map (·.sumNames)
  /-- The aggregating statements bind as many values. -/
  clusterValues : left.cluster?.map (·.statement.params.length) =
    right.cluster?.map (·.statement.params.length)

theorem alike_of_withoutValues {left right : Resolution}
    (same : left.withoutValues = right.withoutValues) : left.Alike right := by
  have list := congrArg Resolution.list? same
  have cluster := congrArg Resolution.cluster? same
  simp only [withoutValues] at list cluster
  have listed {α : Type} (read : ListStatement → α)
      (blind : ∀ list, read list.withoutValues = read list) :
      left.list?.map read = right.list?.map read := by
    simpa [Function.comp_def, blind] using congrArg (Option.map read) list
  have clustered {α : Type} (read : ClusterStatement → α)
      (blind : ∀ cluster, read cluster.withoutValues = read cluster) :
      left.cluster?.map read = right.cluster?.map read := by
    simpa [Function.comp_def, blind] using congrArg (Option.map read) cluster
  have count (statement : Fragment) :
      statement.withoutValues.params.length = statement.params.length := List.length_map _
  exact ⟨listed _ fun _ => rfl, listed _ fun _ => rfl, listed _ fun _ => count _,
    clustered _ fun _ => rfl, clustered _ fun _ => rfl, clustered _ fun _ => rfl,
    clustered _ fun _ => count _⟩

end Resolution

namespace Resolver

variable {entity : Entity} {search other : Search}

/-- Searches that differ at most in bound values have the same error, or statements that differ at
most in their values. -/
theorem resolve_alike (resolver : Resolver) (alike : search.Alike entity other) :
    (∃ error, resolver.resolve entity search = .error error ∧
        resolver.resolve entity other = .error error) ∨
      ∃ resolution resolution', resolver.resolve entity search = .ok resolution ∧
        resolver.resolve entity other = .ok resolution' ∧ resolution.Alike resolution' := by
  rw [resolve_eq, resolve_eq, searchError?_eq_of_alike alike]
  cases searchError? entity other with
  | some error => exact Or.inl ⟨error, rfl, rfl⟩
  | none =>
      exact Or.inr ⟨_, _, rfl, rfl,
        Resolution.alike_of_withoutValues (withoutValues_statements alike)⟩

/-- Values that read like parts of statements leave the statements of the specimen as they are. -/
theorem resolve_specimen_alike :
    Specimen.search.Alike Specimen.orders Specimen.intrusiveSearch ∧
      ∃ resolution resolution', resolve {} Specimen.orders Specimen.search = .ok resolution ∧
        resolve {} Specimen.orders Specimen.intrusiveSearch = .ok resolution' ∧
        resolution.Alike resolution' := by
  have alike : Specimen.search.Alike Specimen.orders Specimen.intrusiveSearch :=
    { fetch := rfl
      order? := rfl
      filters := by
        refine .cons ?_ (.cons ?_ (.cons ?_ .nil)) <;> exact ⟨rfl, rfl, rfl, by decide +kernel⟩
      page := rfl
      literals := by
        rw [Entity.LiteralsAgree]
        decide +kernel }
  rcases resolve_alike {} alike with ⟨error, failed, -⟩ | resolved
  · rw [Specimen.resolve_search] at failed
    cases failed
  · exact ⟨alike, resolved⟩

end Resolver

end EntitySearch
