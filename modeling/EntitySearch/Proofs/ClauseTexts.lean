import EntitySearch.Proofs.Snippet.Remainder
import EntitySearch.Proofs.WellFormedEntities
import EntitySearch.Proofs.WhereClause.Meaning

/-!
# The texts of clauses

The texts of an entity are examined before their parameters have values.  A blank table is refused,
a blank join condition or grouping makes no clause, and every other text makes one, whatever is left
of it when its literal parameters are spliced.  Nothing asks for a field that is selected.
-/

namespace EntitySearch

/-- The clause that a text makes, if it is given and not blank. -/
inductive Snippet.MakesClause (bindings : Bindings) (text? : Option String) :
    Option Fragment → Prop
  | none (blank : ∀ text ∈ text?, Text.isBlank text = true) : MakesClause bindings text? none
  | some {text : String} (given : text? = some text) (remains : Snippet.Remains text bindings) :
      MakesClause bindings text? (some ((Snippet.ofText text).resolve bindings))

namespace EntityDraft

variable {draft : EntityDraft} {entity : Entity}

theorem snippet?_eq_none_iff {text : String} : snippet? text = none ↔ Text.isBlank text = true := by
  simp [snippet?, Snippet.isBlank_ofText]

theorem snippet?_eq_some_iff {text : String} {snippet : Snippet} :
    snippet? text = some snippet ↔ Text.isBlank text = false ∧ .ofText text = snippet := by
  simp [snippet?, Snippet.isBlank_ofText]

theorem makesClause_snippet? (text? : Option String) (bindings : Bindings) :
    Snippet.MakesClause bindings text? ((text?.bind snippet?).map (·.resolve bindings)) := by
  cases clause : text?.bind snippet? with
  | none =>
      refine .none fun text given => snippet?_eq_none_iff.mp ?_
      rwa [given, Option.bind_some] at clause
  | some snippet =>
      obtain ⟨text, given, made⟩ := Option.bind_eq_some_iff.mp clause
      obtain ⟨present, rfl⟩ := snippet?_eq_some_iff.mp made
      exact .some given (Snippet.remains text bindings present)

theorem labels_ne_nil_iff (built : draft.build = .ok entity) :
    entity.labels ≠ [] ↔ ∃ field ∈ draft.fields, field.2.select?.isSome = true := by
  rw [Entity.labels, ne_eq, List.map_eq_nil_iff, Entity.selections, toList_fields_of_build built,
    described, List.filterMap_map, List.filterMap_eq_nil_iff]
  simp [Field.ofMapping, Option.isSome_iff_ne_none]

end EntityDraft

/-- What a filter asks is never asked by white space. -/
theorem Condition.isBlank_sql_of_ofOperator? {operator : Operator} {column compared : String}
    {values : List Value} {fragment : Fragment}
    (found : ofOperator? operator column compared values = some fragment) :
    Text.isBlank fragment.sql = false := by
  have placeholder : Text.isBlank " ?" = false := by decide
  have pattern : Text.isBlank " like ?" = false := by decide
  have range : Text.isBlank " between ? and ?" = false := by decide
  have absence : Text.isBlank " is null" = false := by decide
  have presence : Text.isBlank " is not null" = false := by decide
  have parenthesis : Text.isBlank "(" = false := by decide
  cases operator with
  | equal | notEqual | greaterThan | greaterEqual | lessThan | lessEqual =>
      cases found
      simp [compare, Text.isBlank_append, placeholder]
  | contains | startsWith | endsWith =>
      cases found
      simp [like, Text.isBlank_append, pattern]
  | between =>
      rcases WhereClause.between?_cases found with
        ⟨lower, -, upper, -, rfl⟩ | ⟨lower, -, rfl⟩ | ⟨upper, -, rfl⟩
      · simp [Text.isBlank_append, range]
      · simp [compare, Text.isBlank_append, placeholder]
      · simp [compare, Text.isBlank_append, placeholder]
  | empty =>
      cases found
      simp [isNull, Text.isBlank_append, absence]
  | notEmpty =>
      cases found
      simp [isNotNull, Text.isBlank_append, presence]
  | oneOf =>
      rw [WhereClause.eq_of_oneOf? found]
      simp [Text.isBlank_append, parenthesis]

namespace Resolver

/-- The statements of a search of a described entity, clause by clause. -/
structure EmitsClauses (resolver : Resolver) (draft : EntityDraft) (entity : Entity)
    (search : Search) (resolution : Resolution) (joined? grouped? : Option Fragment) : Prop where
  listed : ∀ list ∈ resolution.list?, list.labels = entity.labels ∧ list.statement =
    resolver.dialect.paginate search.page (selectClause entity search.bindings ++
      resolver.fromWhere entity search ++ orderClause entity search.order?)
  aggregated : ∀ cluster ∈ resolution.cluster?, ∃ before after,
    cluster.statement = before ++ resolver.fromWhere entity search ++ after
  /-- A list has columns just if some field is selected. -/
  selected : entity.labels ≠ [] ↔ ∃ field ∈ draft.fields, field.2.select?.isSome = true
  rows : resolver.fromWhere entity search =
    .ofText " from " ++ (Snippet.ofText draft.table).resolve search.bindings ++
      restrictingTo
        (joined?.toList.map (fun joined => ⟨"(" ++ joined.sql ++ ")", joined.params⟩) ++
          resolver.filterConditions entity search.filters) ++
      grouped?.elim (.ofText "") (.ofText " group by " ++ ·)
  table : Snippet.Remains draft.table search.bindings
  joined : Snippet.MakesClause search.bindings draft.joinCondition? joined?
  grouped : Snippet.MakesClause search.bindings draft.grouping? grouped?
  filtered : ∀ condition ∈ resolver.filterConditions entity search.filters,
    Text.isBlank condition.sql = false

variable {resolver : Resolver} {draft : EntityDraft} {entity : Entity} {search : Search}
  {resolution : Resolution}

theorem joinConditions_eq (bindings : Bindings) :
    joinConditions entity bindings =
      (entity.joinCondition?.map (·.resolve bindings)).toList.map
        fun joined => ⟨"(" ++ joined.sql ++ ")", joined.params⟩ := by
  rw [joinConditions]
  cases entity.joinCondition? with
  | none => rfl
  | some snippet => exact congrArg ([·]) (Fragment.wrap_eq _ _ _)

theorem groupClause_eq (bindings : Bindings) :
    groupClause entity bindings =
      (entity.grouping?.map (·.resolve bindings)).elim (.ofText "")
        (.ofText " group by " ++ ·) := by
  rw [groupClause]
  cases entity.grouping? <;> rfl

/-- The clauses of a search are those of the texts that are not blank, and each has what is left of
its text. -/
theorem resolve_emitsClauses (built : draft.build = .ok entity)
    (resolved : resolver.resolve entity search = .ok resolution) :
    ∃ joined? grouped?,
      resolver.EmitsClauses draft entity search resolution joined? grouped? := by
  have carries := EntityDraft.carries_of_build built
  have present : Text.isBlank draft.table = false := by
    rw [← Snippet.isBlank_ofText, ← carries.table, entity.table_notBlank]
  obtain ⟨-, rfl⟩ := resolve_eq_ok_iff.mp resolved
  refine ⟨_, _,
    { listed := ?_
      aggregated := ?_
      selected := EntityDraft.labels_ne_nil_iff built
      rows := ?_
      table := Snippet.remains draft.table search.bindings present
      joined := EntityDraft.makesClause_snippet? draft.joinCondition? search.bindings
      grouped := EntityDraft.makesClause_snippet? draft.grouping? search.bindings
      filtered := ?_ }⟩
  · intro list listed
    obtain ⟨-, rfl⟩ := mem_list?_statements.mp listed
    exact ⟨rfl, rfl⟩
  · intro cluster aggregated
    obtain ⟨-, rfl⟩ := mem_cluster?_statements.mp aggregated
    exact exists_clusterStatement_eq _ _
  · rw [fromWhere, fromClause, whereClause_eq, joinConditions_eq, groupClause_eq, carries.table,
      carries.joinCondition?, carries.grouping?]
  · intro condition filtered
    obtain ⟨filter, -, found⟩ := List.mem_filterMap.mp filtered
    obtain ⟨field, -, found⟩ := Option.bind_eq_some_iff.mp found
    obtain ⟨column, -, found⟩ := Option.bind_eq_some_iff.mp found
    exact Condition.isBlank_sql_of_ofOperator? found

/-- A blank join condition makes no clause, and whatever the year is, a table is left. -/
theorem resolve_emitsClauses_orderDraft :
    ∃ entity resolution joined? grouped?, EntityDraft.orderDraft.build = .ok entity ∧
      resolve {} entity { fetch := .all } = .ok resolution ∧
      EmitsClauses {} EntityDraft.orderDraft entity { fetch := .all } resolution joined? grouped? ∧
      joined? = none ∧
      Text.isBlank ((Snippet.ofText EntityDraft.orderDraft.table).resolve {}).sql = false := by
  obtain ⟨entity, built⟩ : ∃ entity, EntityDraft.orderDraft.build = .ok entity :=
    EntityDraft.exists_build_iff.mpr ⟨by decide +kernel, by decide, by decide⟩
  have resolved : resolve {} entity { fetch := .all } =
      .ok (statements {} entity { fetch := .all }) :=
    resolve_eq_ok_iff.mpr ⟨searchError?_eq_none_iff.mpr ⟨nofun, nofun⟩, rfl⟩
  obtain ⟨joined?, grouped?, emits⟩ := resolve_emitsClauses built resolved
  refine ⟨entity, _, joined?, grouped?, built, resolved, emits, ?_, ?_⟩
  · cases emits.joined with
    | none => rfl
    | some given remains =>
        cases given
        cases remains.present
  · exact emits.table.kept [] "orders_".toList ":year: o".toList (by decide +kernel)
      ⟨by decide, Or.inl rfl⟩ (by decide)

/-- The description makes an entity of which a search without values lists the rows so. -/
def ListsAs (draft : EntityDraft) (list : ListStatement) : Prop :=
  ∃ entity resolution, draft.build = .ok entity ∧
    resolve {} entity { fetch := .listOnly } = .ok resolution ∧ resolution.list? = some list

theorem eq_ok_of_toOption {ε α : Type} {result : Except ε α} {value : α}
    (found : result.toOption = some value) : result = .ok value := by
  cases result with
  | error error => cases found
  | ok other =>
      cases found
      rfl

theorem listsAs_of_run {list : ListStatement}
    (run : (draft.build.toOption.bind fun entity =>
      (resolve {} entity { fetch := .listOnly }).toOption.bind (·.list?)) = some list) :
    ListsAs draft list := by
  obtain ⟨entity, built, run⟩ := Option.bind_eq_some_iff.mp run
  obtain ⟨resolution, resolved, listed⟩ := Option.bind_eq_some_iff.mp run
  exact ⟨entity, resolution, eq_ok_of_toOption built, eq_ok_of_toOption resolved, listed⟩

/-- Orders of which the scope and the grouping are left to the search. -/
def scopedDraft : EntityDraft where
  table := "t"
  fields := [("id", .selected "t.id" .long)]
  joinCondition? := some ":scope:"
  grouping? := some ":key:"

/-- Without values the clauses of the scope and the grouping are empty, and so are all clauses when
the table is left to the search as well and no field is selected. -/
theorem listsAs_empty_clauses :
    ListsAs scopedDraft ⟨.ofText "select t.id id from t where () group by ", ["id"]⟩ ∧
      ListsAs { scopedDraft with table := ":table:", fields := [] }
        ⟨.ofText "select  from  where () group by ", []⟩ :=
  ⟨listsAs_of_run (by decide +kernel), listsAs_of_run (by decide +kernel)⟩

end Resolver

end EntitySearch
