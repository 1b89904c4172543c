import EntitySearch.Proofs.AggregatedRows
import EntitySearch.Proofs.DerivedTables
import EntitySearch.Proofs.WellFormedEntities

/-!
# What a list selects

A list has one column for every described field that has an expression to select, in the order of
the description.  Its select clause names every column by the label of the field, no two columns
have one label, and the fields without an expression leave no trace in it.
-/

namespace EntitySearch

namespace Entity

/-- The labels of a list are those of the fields that have an expression. -/
theorem labels_eq (entity : Entity) :
    entity.labels =
      (entity.fields.toList.filter fun field => field.select?.isSome).map (·.label) := by
  rw [labels, selections, List.map_filterMap, ← List.filterMap_eq_map, List.filterMap_filter]
  apply List.filterMap_congr
  intro field _
  cases field.select? <;> rfl

theorem nodup_labels (entity : Entity) : entity.labels.Nodup := by
  rw [labels_eq]
  exact entity.fields.labels_nodup.sublist (List.filter_sublist.map _)

end Entity

namespace EntityDraft

variable {draft other : EntityDraft} {entity : Entity}

/-- The described fields that have an expression to select, in order. -/
def selectedFields (draft : EntityDraft) : List (String × FieldMapping) :=
  draft.fields.filter fun field => field.2.select?.isSome

/-- The expressions of the selected fields with their labels, in order.  A field without a label is
labelled by its name. -/
def selectList (draft : EntityDraft) : List (Snippet × String) :=
  draft.fields.filterMap fun field =>
    field.2.select?.map fun snippet => (snippet, field.2.label?.getD field.1)

theorem selectList_eq (draft : EntityDraft) :
    draft.selectList = draft.selectedFields.filterMap fun field =>
      field.2.select?.map fun snippet => (snippet, field.2.label?.getD field.1) := by
  rw [selectList, selectedFields, List.filterMap_filter]
  apply List.filterMap_congr
  intro field _
  cases field.2.select? <;> rfl

theorem selectList_of_build (built : draft.build = .ok entity) :
    (entity.selections.map fun selection => (selection.2, selection.1.label)) =
      draft.selectList := by
  rw [Entity.selections, toList_fields_of_build built, described, selectList, List.map_filterMap,
    List.filterMap_map]
  apply List.filterMap_congr
  intro field _
  simp only [Function.comp_apply, Option.map_map]
  rfl

theorem labels_of_build (built : draft.build = .ok entity) :
    entity.labels = draft.selectList.map (·.2) := by
  rw [Entity.labels, ← selectList_of_build built, List.map_map]
  rfl

end EntityDraft

theorem Dialect.paginate_of_unbounded {dialect : Dialect} {page : Page} {statement : Fragment}
    (unbounded : page.max? = none) : dialect.paginate page statement = statement := by
  obtain ⟨offset, max?⟩ := page
  cases unbounded
  exact paginate_unbounded dialect offset statement

namespace Resolver

variable {resolver : Resolver} {draft : EntityDraft} {entity : Entity} {search : Search}

theorem sql_selectClause_of_build (built : draft.build = .ok entity) (bindings : Bindings) :
    (selectClause entity bindings).sql =
      "select " ++ (if draft.distinct then "distinct " else "") ++
        String.intercalate ", " (draft.selectList.map fun column =>
          (column.1.resolve bindings).sql ++ " " ++ column.2) := by
  have opening : (if draft.distinct then "select distinct " else "select ") =
      "select " ++ if draft.distinct then "distinct " else "" := by
    cases draft.distinct <;> rfl
  rw [sql_selectClause, (EntityDraft.carries_of_build built).distinct, opening,
    ← EntityDraft.selectList_of_build built, NamedExpression.listSql, listColumns, List.map_map,
    List.map_map]
  rfl

theorem params_selectClause_of_build (built : draft.build = .ok entity) (bindings : Bindings) :
    (selectClause entity bindings).params =
      draft.selectList.flatMap fun column => (column.1.resolve bindings).params := by
  rw [params_selectClause, selectValues, ← EntityDraft.selectList_of_build built, List.flatMap_map]
  simp only [Snippet.params_resolve]

/-- How a list selects the fields of a description; the rows stand behind its select clause. -/
structure SelectsFields (draft : EntityDraft) (entity : Entity) (search : Search)
    (list : ListStatement) (rows : Fragment) : Prop where
  statement : list.statement = selectClause entity search.bindings ++ rows
  rows : ∃ rest, rows.sql = " from " ++ rest
  text : (selectClause entity search.bindings).sql =
    "select " ++ (if draft.distinct then "distinct " else "") ++
      String.intercalate ", " (draft.selectList.map fun column =>
        (column.1.resolve search.bindings).sql ++ " " ++ column.2)
  values : (selectClause entity search.bindings).params =
    draft.selectList.flatMap fun column => (column.1.resolve search.bindings).params
  labels : list.labels = draft.selectList.map (·.2)
  nodup : list.labels.Nodup
  /-- Whatever is described besides the selected fields, the select clause is the same. -/
  unselected : ∀ (other : EntityDraft) (otherEntity : Entity), other.build = .ok otherEntity →
    other.distinct = draft.distinct → other.selectedFields = draft.selectedFields →
      selectClause otherEntity search.bindings = selectClause entity search.bindings ∧
        otherEntity.labels = entity.labels

/-- A whole list selects exactly the fields that have an expression, each under its label. -/
theorem resolve_selectsFields {resolution : Resolution} (built : draft.build = .ok entity)
    (resolved : resolver.resolve entity search = .ok resolution)
    (listed : search.fetch.list = true) (unbounded : search.page.max? = none) :
    ∃ list rows, resolution.list? = some list ∧ SelectsFields draft entity search list rows := by
  obtain ⟨-, rfl⟩ := resolve_eq_ok_iff.mp resolved
  have labels := EntityDraft.labels_of_build built
  refine ⟨_, resolver.fromWhere entity search ++ orderClause entity search.order?,
    if_pos listed,
    { statement := ?_
      rows := ?_
      text := sql_selectClause_of_build built search.bindings
      values := params_selectClause_of_build built search.bindings
      labels
      nodup := entity.nodup_labels
      unselected := ?_ }⟩
  · rw [listStatement, Dialect.paginate_of_unbounded unbounded, listedRows, Fragment.append_assoc]
  · obtain ⟨rest, starts⟩ : ∃ rest, (resolver.fromWhere entity search).sql = " from " ++ rest :=
      sql_fromWhere
    exact ⟨rest ++ (orderClause entity search.order?).sql, by
      rw [Fragment.sql_append, starts, String.append_assoc]⟩
  · intro other otherEntity otherBuilt distinct fields
    have columns : other.selectList = draft.selectList := by
      rw [EntityDraft.selectList_eq, EntityDraft.selectList_eq, fields]
    constructor
    · ext1
      · rw [sql_selectClause_of_build otherBuilt, sql_selectClause_of_build built, distinct,
          columns]
      · rw [params_selectClause_of_build otherBuilt, params_selectClause_of_build built, columns]
    · rw [EntityDraft.labels_of_build otherBuilt, labels, columns]

/-- Equal orders of a year once, as far as they are placed. -/
def placedOrders : Search where
  fetch := .listOnly
  filters := [{ field := "placed", operator := .notEmpty }]
  bindings := .ofList [("year", .integer 2024), ("untitled", .text "?")]

/-- The field that is not selected is filtered, and still stands nowhere in the select clause. -/
theorem resolve_selectsFields_orderDraft :
    ∃ entity resolution list rows,
      { EntityDraft.orderDraft with distinct := true }.build = .ok entity ∧
        resolve { dialect := .oracle } entity placedOrders = .ok resolution ∧
        placedOrders.fetch.list = true ∧ placedOrders.page.max? = none ∧
        resolution.list? = some list ∧
        SelectsFields { EntityDraft.orderDraft with distinct := true } entity placedOrders list
          rows ∧
        (selectClause entity placedOrders.bindings).sql =
          "select distinct o.id id, coalesce(o.title, ?) name" ∧
        (selectClause entity placedOrders.bindings).params = [.text "?"] ∧
        list.labels = ["id", "name"] := by
  obtain ⟨entity, built⟩ :
      ∃ entity, { EntityDraft.orderDraft with distinct := true }.build = .ok entity :=
    EntityDraft.exists_build_iff.mpr ⟨by decide +kernel, by decide, by decide⟩
  have placed : entity.column? "placed" = some "o.placed" :=
    ((EntityDraft.describes_of_build built).declared ("placed", .ofColumn "o.placed" .dateTime)
      (by decide +kernel)).2.2.2
  have accepted : searchError? entity placedOrders = none :=
    searchError?_eq_none_iff.mpr ⟨by simp [placedOrders, placed], nofun⟩
  have resolved : resolve { dialect := .oracle } entity placedOrders =
      .ok (statements { dialect := .oracle } entity placedOrders) :=
    resolve_eq_ok_iff.mpr ⟨accepted, rfl⟩
  obtain ⟨list, rows, listed, selects⟩ := resolve_selectsFields built resolved rfl rfl
  exact ⟨entity, _, list, rows, built, resolved, rfl, rfl, listed, selects,
    selects.text.trans (by decide +kernel), selects.values.trans (by decide +kernel),
    selects.labels.trans (by decide +kernel)⟩

end Resolver

end EntitySearch
