import EntitySearch.Proofs.DerivedTables
import EntitySearch.Proofs.Snippet.Grammar
import EntitySearch.Proofs.WellFormedEntities

/-!
# Columns that are selected expressions

A field that is selected by an expression without parameters is filtered and summed by the same
expression, and resolving the expression leaves it as it is.  An expression with a parameter is no
column: a filter on its field is an error, and so is a sum.
-/

namespace EntitySearch

/-! ## Texts without parameters -/

namespace SnippetPiece

/-- Without markers every character is a piece of its own. -/
theorem eq_map_plain {pieces : List SnippetPiece}
    (unmarked : ∀ parameter, .marker parameter ∉ pieces) :
    pieces = (pieces.flatMap source).map .plain := by
  induction pieces with
  | nil => rfl
  | cons piece pieces induction =>
      simp only [List.mem_cons, not_or] at unmarked
      have rest := induction fun parameter => (unmarked parameter).2
      cases piece with
      | plain char =>
          rw [List.flatMap_cons, source, List.singleton_append, List.map_cons, ← rest]
      | marker parameter => exact absurd rfl (unmarked parameter).1

theorem flatMap_source_map_plain (text : List Char) :
    (text.map plain).flatMap source = text := by
  simp [List.flatMap_map, source]

theorem flatMap_template_map_plain (text : List Char) :
    (text.map plain).flatMap template = text := by
  simp [List.flatMap_map, template]

end SnippetPiece

namespace Snippet

/-- A marker opens in the text: some colon stands behind no other colon and has the first letter of
a name behind it. -/
def HasMarker (text : List Char) : Prop :=
  ∃ before next after, text = before ++ ':' :: next :: after ∧
    before.getLast? ≠ some ':' ∧ SnippetPiece.isNameStart next = true

theorem hasMarker_of_mem {text : String} {parameter : Marker}
    (member : .marker parameter ∈ (ofText text).pieces) : HasMarker text.toList := by
  obtain ⟨name, kind⟩ := parameter
  obtain ⟨front, back, split⟩ := List.append_of_mem member
  have cut : IsCut text.toList (ofText text).pieces := isCut_iff.mpr rfl
  cases cut.fits front _ back split with
  | marker named _ apart _ =>
      obtain ⟨next, letters, spelled⟩ :=
        List.exists_cons_of_ne_nil (SnippetPiece.isName_ne_nil named)
      refine ⟨_, next, letters ++ SnippetPiece.behindName (back.flatMap SnippetPiece.source) kind,
        ?_, apart, ?_⟩
      · rw [← cut.source, split, List.flatMap_append, List.flatMap_cons,
          SnippetPiece.source_marker_append, spelled]
        rfl
      · rw [spelled, SnippetPiece.isName] at named
        simpa using (Bool.and_eq_true_iff.mp named).1

/-- Where a marker opens, one is read: if all characters were plain, so would be the colon. -/
theorem exists_marker_of_hasMarker {text : String} (opens : HasMarker text.toList) :
    ∃ parameter, .marker parameter ∈ (ofText text).pieces := by
  by_contra unmarked
  rw [not_exists] at unmarked
  obtain ⟨before, next, after, split, apart, start⟩ := opens
  have cut : IsCut text.toList (ofText text).pieces := isCut_iff.mpr rfl
  have plain : (ofText text).pieces =
      before.map .plain ++ .plain ':' :: (next :: after).map .plain := by
    rw [SnippetPiece.eq_map_plain unmarked, cut.source, split, List.map_append, List.map_cons]
  cases cut.fits _ _ _ plain with
  | plain stays =>
      rw [SnippetPiece.flatMap_source_map_plain, SnippetPiece.flatMap_source_map_plain,
        List.nil_append] at stays
      rw [stays rfl apart next rfl] at start
      cases start

theorem isEmpty_markers_iff {text : String} :
    (ofText text).markers.isEmpty ↔ ¬ HasMarker text.toList := by
  rw [List.isEmpty_iff, List.eq_nil_iff_forall_not_mem]
  constructor
  · intro unmarked opens
    obtain ⟨parameter, member⟩ := exists_marker_of_hasMarker opens
    exact unmarked parameter (mem_markers.mpr member)
  · intro closed parameter member
    exact closed (hasMarker_of_mem (mem_markers.mp member))

/-- A text without parameters is resolved to itself and binds nothing. -/
theorem resolve_of_not_hasMarker {text : String} (closed : ¬ HasMarker text.toList)
    (bindings : Bindings) : (ofText text).resolve bindings = .ofText text := by
  have markers : (ofText text).markers = [] := List.isEmpty_iff.mp (isEmpty_markers_iff.mpr closed)
  have cut : IsCut text.toList (ofText text).pieces := isCut_iff.mpr rfl
  have template : (ofText text).template = text := by
    rw [Snippet.template,
      SnippetPiece.eq_map_plain fun parameter member => closed (hasMarker_of_mem member),
      cut.source, SnippetPiece.flatMap_template_map_plain, String.ofList_toList]
  rw [resolve, markers, List.foldl_nil, template]

end Snippet

/-! ## Fields without a column of their own -/

namespace FieldMapping

variable {expression : String}

theorem column?_selected_of_not_hasMarker (type : FieldType)
    (closed : ¬ Snippet.HasMarker expression.toList) :
    (selected expression type).column? = some expression :=
  if_pos (Snippet.isEmpty_markers_iff.mpr closed)

theorem column?_selected_of_hasMarker (type : FieldType)
    (opens : Snippet.HasMarker expression.toList) :
    (selected expression type).column? = none :=
  if_neg fun unmarked => Snippet.isEmpty_markers_iff.mp unmarked opens

end FieldMapping

namespace Resolver

variable {resolver : Resolver} {entity : Entity} {search : Search} {resolution : Resolution}
  {name expression : String}

/-- How the statements of a search are written over the expression that a field is selected by: the
conditions and the summed columns stand in the order of the filters and of the summed fields. -/
structure WritesOver (resolver : Resolver) (entity : Entity) (search : Search)
    (resolution : Resolution) (name label expression : String) (type : FieldType) : Prop where
  listed : ∀ list ∈ resolution.list?, list.statement =
    resolver.dialect.paginate search.page (selectClause entity search.bindings ++
      resolver.fromWhere entity search ++ orderClause entity search.order?)
  columns : (selectClause entity search.bindings).sql =
    (if entity.distinct then "select distinct " else "select ") ++
      NamedExpression.listSql (listColumns entity search.bindings)
  selected : ⟨expression, label⟩ ∈ listColumns entity search.bindings
  filtered : ∃ conditions,
    resolver.fromWhere entity search = fromClause entity search.bindings ++
      restrictingTo (joinConditions entity search.bindings ++ conditions.filterMap id) ++
        groupClause entity search.bindings ∧
    List.Forall₂ (fun filter condition => filter.field = name →
      condition = filter.condition? type expression resolver.dialect resolver.correction)
      search.filters conditions
  summed : ∀ cluster ∈ resolution.cluster?, ∃ sums,
    Names entity search (resolver.aggregatedRows entity search).sql cluster
      (.allocate (resolver.aggregatedRows entity search).sql search.fetch) sums ∧
    List.Forall₂ (fun field summed => field = name → summed.expression = expression)
      search.fetch.summaryFields sums

theorem writesOver_of_field? {field : Field} (found : entity.field? name = some field)
    (selects : field.select? = some (.ofText expression)) (column : field.column? = some expression)
    (closed : ¬ Snippet.HasMarker expression.toList)
    (resolved : resolver.resolve entity search = .ok resolution) :
    resolver.WritesOver entity search resolution name field.label expression field.type := by
  obtain ⟨accepted, rfl⟩ := resolve_eq_ok_iff.mp resolved
  have member := (Entity.mem_of_field? found).1
  refine
    { listed := ?_
      columns := sql_selectClause entity search.bindings
      selected := ?_
      filtered := ⟨search.filters.map (resolver.filterCondition entity), ?_, ?_⟩
      summed := ?_ }
  · intro list listed
    obtain ⟨-, rfl⟩ := mem_list?_statements.mp listed
    rfl
  · have selection : (field, .ofText expression) ∈ entity.selections :=
      List.mem_filterMap.mpr ⟨field, member, by rw [selects, Option.map_some]⟩
    have expressed : ((Snippet.ofText expression).resolve search.bindings).sql = expression := by
      rw [Snippet.resolve_of_not_hasMarker closed, Fragment.sql_ofText]
    refine List.mem_map.mpr ⟨_, selection, ?_⟩
    rw [expressed]
  · rw [fromWhere, whereClause_eq, filterConditions, List.filterMap_map, Function.id_comp]
  · rw [List.forall₂_map_right_iff, List.forall₂_same]
    intro filter _ filters
    rw [filterCondition, filters, found, Option.bind_some, column, Option.bind_some]
  · intro cluster aggregated
    obtain ⟨-, rfl⟩ := mem_cluster?_statements.mp aggregated
    have named := names_clusterStatement accepted (resolver.aggregatedRows entity search)
    refine ⟨_, named, named.mapped.imp ?_⟩
    rintro field' summed mapped rfl
    rw [Entity.column?, found, Option.bind_some, column] at mapped
    exact (Option.some.inj mapped).symm

theorem exists_error_of_unmapped (unmapped : entity.column? name = none)
    (used : name ∈ search.filters.map (·.field) ∨ name ∈ search.fetch.summaryFields) :
    ∃ error, resolver.resolve entity search = .error error := by
  rw [resolve_eq]
  cases failed : searchError? entity search with
  | some error => exact ⟨error, rfl⟩
  | none =>
      obtain ⟨filters, sums⟩ := searchError?_eq_none_iff.mp failed
      rcases used with filtered | summed
      · obtain ⟨filter, member, rfl⟩ := List.mem_map.mp filtered
        simpa [unmapped] using filters filter member
      · simpa [unmapped] using sums name summed

/-- What an expression is to a field that is selected by it and has no column of its own. -/
structure ImpliesColumn (expression : String) (type : FieldType) : Prop where
  select : (FieldMapping.selected expression type).select? = some (.ofText expression)
  isSome_iff : (FieldMapping.selected expression type).column?.isSome ↔
    ¬ Snippet.HasMarker expression.toList
  /-- The column is the expression, as it is written and as it is resolved. -/
  column : ∀ column ∈ (FieldMapping.selected expression type).column?,
    column = expression ∧
      ∀ bindings, (Snippet.ofText expression).resolve bindings = .ofText column
  /-- In an entity with such a field, lists, filters and sums use one expression when it has no
  parameter, and filters and sums are refused when it has one. -/
  statements : ∀ (draft : EntityDraft) (entity : Entity) (name : String) (label? : Option String),
    draft.build = .ok entity →
    (name, { FieldMapping.selected expression type with label? }) ∈ draft.fields →
    ∀ (resolver : Resolver) (search : Search),
      (¬ Snippet.HasMarker expression.toList →
        ∀ resolution, resolver.resolve entity search = .ok resolution →
          resolver.WritesOver entity search resolution name (label?.getD name) expression type) ∧
      (Snippet.HasMarker expression.toList →
        name ∈ search.filters.map (·.field) ∨ name ∈ search.fetch.summaryFields →
          ∃ error, resolver.resolve entity search = .error error)

/-- The column that a selected field has without being given one is the expression that lists
select, and only an expression without parameters is a column. -/
theorem selected_impliesColumn (expression : String) (type : FieldType) :
    ImpliesColumn expression type where
  select := rfl
  isSome_iff := by
    by_cases opens : Snippet.HasMarker expression.toList
    · simp [FieldMapping.column?_selected_of_hasMarker type opens, opens]
    · simp [FieldMapping.column?_selected_of_not_hasMarker type opens, opens]
  column := by
    intro column implied
    by_cases opens : Snippet.HasMarker expression.toList
    · rw [FieldMapping.column?_selected_of_hasMarker type opens] at implied
      cases implied
    · rw [FieldMapping.column?_selected_of_not_hasMarker type opens] at implied
      cases implied
      exact ⟨rfl, Snippet.resolve_of_not_hasMarker opens⟩
  statements := by
    intro draft entity name label? built declared resolver search
    have found := EntityDraft.field?_of_build built declared
    constructor
    · intro closed resolution resolved
      have column : (FieldMapping.selected expression type).column? = some expression :=
        FieldMapping.column?_selected_of_not_hasMarker type closed
      exact writesOver_of_field? found rfl column closed resolved
    · intro opens used
      have column : (FieldMapping.selected expression type).column? = none :=
        FieldMapping.column?_selected_of_hasMarker type opens
      refine exists_error_of_unmapped ?_ used
      rw [Entity.column?, found]
      exact column

/-- Orders with a field that is selected by a cast, and one whose expression has a parameter. -/
def castDraft : EntityDraft where
  table := "orders o"
  fields :=
    [("number", (FieldMapping.selected "o.id::text || ': ö'" .text).withLabel "nr"),
      ("title", .selected "coalesce(o.title, :untitled)" .text)]

/-- The field that is selected by the cast is filtered and summed. -/
def numberSearch : Search where
  fetch := Fetch.all.withSummary ["number"]
  filters := [{ field := "number", operator := .startsWith, values := [.integer 7] }]

/-- The colons of a cast are no parameter, so the cast is filtered and summed as it is selected; a
sum over the title is refused. -/
theorem castDraft_impliesColumn :
    ∃ entity resolution, castDraft.build = .ok entity ∧
      ¬ Snippet.HasMarker "o.id::text || ': ö'".toList ∧
      Snippet.HasMarker "coalesce(o.title, :untitled)".toList ∧
      resolve {} entity numberSearch = .ok resolution ∧
      WritesOver {} entity numberSearch resolution "number" "nr" "o.id::text || ': ö'" .text ∧
      ∃ error, resolve {} entity { numberSearch with fetch := Fetch.all.withSummary ["title"] } =
        .error error := by
  obtain ⟨entity, built⟩ : ∃ entity, castDraft.build = .ok entity :=
    EntityDraft.exists_build_iff.mpr ⟨by decide +kernel, by decide, by decide⟩
  have closed : ¬ Snippet.HasMarker "o.id::text || ': ö'".toList :=
    Snippet.isEmpty_markers_iff.mp (by decide +kernel)
  have opens : Snippet.HasMarker "coalesce(o.title, :untitled)".toList :=
    ⟨"coalesce(o.title, ".toList, 'u', "ntitled)".toList, by decide, by decide, by decide⟩
  have column : entity.column? "number" = some "o.id::text || ': ö'" := by
    rw [Entity.column?, EntityDraft.field?_of_build built List.mem_cons_self]
    exact FieldMapping.column?_selected_of_not_hasMarker .text closed
  have accepted : searchError? entity numberSearch = none :=
    searchError?_eq_none_iff.mpr
      ⟨by simp [numberSearch, column], by simp [numberSearch, Fetch.withSummary, Fetch.all, column]⟩
  have resolved : resolve {} entity numberSearch = .ok (statements {} entity numberSearch) :=
    resolve_eq_ok_iff.mpr ⟨accepted, rfl⟩
  have number := (selected_impliesColumn "o.id::text || ': ö'" .text).statements castDraft entity
    "number" (some "nr") built List.mem_cons_self {} numberSearch
  have title := (selected_impliesColumn "coalesce(o.title, :untitled)" .text).statements castDraft
    entity "title" none built (List.mem_cons_of_mem _ List.mem_cons_self) {}
    { numberSearch with fetch := Fetch.all.withSummary ["title"] }
  exact ⟨entity, _, built, closed, opens, resolved, number.1 closed _ resolved,
    title.2 opens (Or.inr List.mem_cons_self)⟩

end Resolver

end EntitySearch
