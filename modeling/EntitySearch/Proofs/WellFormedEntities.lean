import EntitySearch.Proofs.Assembly
import Mathlib.Data.List.Nodup

/-!
# Which descriptions are entities

A description becomes an entity exactly when its table is not blank and its fields repeat neither a
name nor a label; otherwise the first thing that is wrong is the error.  The entity knows every
described field by its name and gives back what was declared, and it knows no other field.  So a
field that is selected always has a label and a field that is filtered always has a type.
-/

namespace EntitySearch

namespace FieldList

/-- Names and labels are distinct. -/
def Distinct (fields : List Field) : Prop :=
  (fields.map (·.name)).Nodup ∧ (fields.map (·.label)).Nodup

/-- The field repeats the name or the label of an earlier one, its name being looked at first. -/
inductive Repeats (earlier : List Field) (field : Field) : EntityError → Prop where
  /-- An earlier field has the name. -/
  | name (known : field.name ∈ earlier.map (·.name)) :
      Repeats earlier field (.repeatedField field.name)
  /-- No earlier field has the name, but one has the label. -/
  | label (unknown : field.name ∉ earlier.map (·.name))
      (used : field.label ∈ earlier.map (·.label)) :
      Repeats earlier field (.repeatedLabel field.label field.name)

theorem not_repeats_of_distinct {earlier later : List Field} {field : Field} {error : EntityError}
    (distinct : Distinct (earlier ++ field :: later)) : ¬Repeats earlier field error := by
  rw [Distinct, List.map_append, List.map_append, List.nodup_append, List.nodup_append] at distinct
  intro repeats
  cases repeats with
  | name known => exact distinct.1.2.2 _ known _ List.mem_cons_self rfl
  | label unknown used => exact distinct.2.2.2 _ used _ List.mem_cons_self rfl

theorem push_eq_error_iff {fields : FieldList} {field : Field} {error : EntityError} :
    fields.push field = .error error ↔ Repeats fields.toList field error := by
  rw [push]
  split
  · rename_i known
    constructor
    · rintro ⟨⟩
      exact .name known
    · rintro (_ | ⟨unknown, _⟩)
      · rfl
      · exact absurd known unknown
  · rename_i unknown
    split
    · rename_i used
      constructor
      · rintro ⟨⟩
        exact .label unknown used
      · rintro (⟨known⟩ | _)
        · exact absurd known unknown
        · rfl
    · rename_i unused
      constructor
      · rintro ⟨⟩
      · rintro (⟨known⟩ | ⟨_, used⟩)
        · exact absurd known unknown
        · exact absurd used unused

theorem toList_foldlM_push {fields : List Field} {start result : FieldList}
    (success : fields.foldlM push start = .ok result) : result.toList = start.toList ++ fields := by
  induction fields generalizing start with
  | nil =>
      cases success
      rw [List.append_nil]
  | cons field fields induction =>
      rw [List.foldlM_cons] at success
      cases pushed : start.push field with
      | error error =>
          rw [pushed] at success
          cases success
      | ok next =>
          rw [pushed] at success
          rw [induction success, toList_push pushed, List.append_assoc, List.singleton_append]

/-- Fields that repeat nothing are pushed one after another. -/
theorem exists_foldlM_push {fields : List Field} {start : FieldList}
    (distinct : Distinct (start.toList ++ fields)) :
    ∃ result, fields.foldlM push start = .ok result := by
  induction fields generalizing start with
  | nil => exact ⟨start, rfl⟩
  | cons field fields induction =>
      rw [List.foldlM_cons]
      cases pushed : start.push field with
      | error error =>
          exact absurd (push_eq_error_iff.mp pushed) (not_repeats_of_distinct distinct)
      | ok next =>
          apply induction
          rw [toList_push pushed, List.append_assoc, List.singleton_append]
          exact distinct

/-- Pushing ends at the first field that repeats something. -/
theorem exists_repeats_of_foldlM_push {fields : List Field} {start : FieldList}
    {error : EntityError} (failure : fields.foldlM push start = .error error) :
    ∃ before field after, fields = before ++ field :: after ∧
      Distinct (start.toList ++ before) ∧ Repeats (start.toList ++ before) field error := by
  induction fields generalizing start with
  | nil => cases failure
  | cons field fields induction =>
      rw [List.foldlM_cons] at failure
      cases pushed : start.push field with
      | error found =>
          rw [pushed] at failure
          cases failure
          refine ⟨[], field, fields, rfl, ?_⟩
          rw [List.append_nil]
          exact ⟨⟨start.names_nodup, start.labels_nodup⟩, push_eq_error_iff.mp pushed⟩
      | ok next =>
          rw [pushed] at failure
          obtain ⟨before, repeated, after, rfl, distinct, repeats⟩ := induction failure
          rw [toList_push pushed, List.append_assoc, List.singleton_append] at distinct repeats
          exact ⟨field :: before, repeated, after, rfl, distinct, repeats⟩

theorem ofList_eq_error_iff {fields : List Field} {error : EntityError} :
    ofList fields = .error error ↔
      ∃ before field after, fields = before ++ field :: after ∧ Distinct before ∧
        Repeats before field error := by
  constructor
  · exact exists_repeats_of_foldlM_push
  · rintro ⟨before, field, after, rfl, distinct, repeats⟩
    obtain ⟨pushed, success⟩ : ∃ pushed, before.foldlM push empty = .ok pushed :=
      exists_foldlM_push distinct
    have pushed_fields : pushed.toList = before := toList_foldlM_push success
    rw [← pushed_fields, ← push_eq_error_iff] at repeats
    rw [ofList, List.foldlM_append, success]
    change List.foldlM push pushed (field :: after) = _
    rw [List.foldlM_cons, repeats]
    rfl

theorem toList_ofList {fields : List Field} {result : FieldList}
    (success : ofList fields = .ok result) : result.toList = fields :=
  toList_foldlM_push success

theorem exists_ofList_iff {fields : List Field} :
    (∃ result, ofList fields = .ok result) ↔ Distinct fields := by
  constructor
  · rintro ⟨result, success⟩
    rw [← toList_ofList success]
    exact ⟨result.names_nodup, result.labels_nodup⟩
  · intro distinct
    exact exists_foldlM_push distinct

end FieldList

namespace Entity

variable {entity : Entity} {name : String}

/-- The names of the fields, in order. -/
def names (entity : Entity) : List String := entity.fields.toList.map (·.name)

/-- The label of the field with a name. -/
def label? (entity : Entity) (name : String) : Option String :=
  (entity.field? name).map (·.label)

/-- The type of the field with a name. -/
def type? (entity : Entity) (name : String) : Option FieldType :=
  (entity.field? name).map (·.type)

/-- The expression that a list selects for the field with a name. -/
def select? (entity : Entity) (name : String) : Option Snippet :=
  (entity.field? name).bind (·.select?)

/-- Distinct names make every field the only one with its name. -/
theorem field?_eq_some_iff {field : Field} :
    entity.field? name = some field ↔ field ∈ entity.fields.toList ∧ field.name = name := by
  refine ⟨mem_of_field?, ?_⟩
  rintro ⟨member, rfl⟩
  cases found : entity.field? field.name with
  | none =>
      have unnamed := List.find?_eq_none.mp found field member
      simp at unnamed
  | some other =>
      obtain ⟨other_member, same⟩ := mem_of_field? found
      rw [List.inj_on_of_nodup_map entity.fields.names_nodup other_member member same]

theorem field?_name {field : Field} (member : field ∈ entity.fields.toList) :
    entity.field? field.name = some field :=
  field?_eq_some_iff.mpr ⟨member, rfl⟩

theorem field?_eq_none_iff : entity.field? name = none ↔ name ∉ entity.names := by
  simp [field?, names]

theorem label?_injective {other : String} (known : name ∈ entity.names)
    (same : entity.label? name = entity.label? other) (other_known : other ∈ entity.names) :
    name = other := by
  obtain ⟨field, member, rfl⟩ := List.mem_map.mp known
  obtain ⟨field', member', rfl⟩ := List.mem_map.mp other_known
  rw [label?, label?, field?_name member, field?_name member'] at same
  rw [List.inj_on_of_nodup_map entity.fields.labels_nodup member member' (Option.some.inj same)]

/-- Going through the names and looking up each field finds the selected fields. -/
theorem selections_eq_names (entity : Entity) (fallback : String → String) :
    (entity.selections.map fun selection => (selection.1.label, selection.2)) =
      entity.names.filterMap fun name =>
        (entity.select? name).map fun snippet =>
          ((entity.label? name).getD (fallback name), snippet) := by
  rw [selections, names, List.map_filterMap, List.filterMap_map]
  apply List.filterMap_congr
  intro field member
  simp only [Function.comp_apply, select?, label?, field?_name member, Option.map_map]
  rfl

end Entity

/-- A filter on a field with a column finds the field's type. -/
theorem Resolver.filterCondition?_eq_column (resolver : Resolver) (entity : Entity)
    (filter : Filter) (fallback : FieldType) :
    resolver.filterCondition? entity filter =
      match entity.column? filter.field with
      | none => .error (.unmappedFilterField filter.field)
      | some column =>
          .ok (filter.condition? ((entity.type? filter.field).getD fallback) column
            resolver.dialect resolver.correction) := by
  rw [filterCondition?, Entity.column?, Entity.type?]
  cases entity.field? filter.field with
  | none => rfl
  | some field => rfl

namespace EntityDraft

/-- The fields that are described. -/
def described (draft : EntityDraft) : List Field :=
  draft.fields.map fun field => Field.ofMapping field.1 field.2

/-- The table is not blank, and no field repeats a name or a label. -/
structure IsWellFormed (draft : EntityDraft) : Prop where
  table : (Snippet.ofText draft.table).isBlank = false
  names : (draft.fields.map (·.1)).Nodup
  /-- A field without a label is labelled by its name. -/
  labels : (draft.fields.map fun field => field.2.label?.getD field.1).Nodup

/-- What is wrong with the description: the table before all fields, and of the fields the first one
that repeats something. -/
inductive FirstFault (draft : EntityDraft) : EntityError → Prop where
  /-- The table is blank. -/
  | table (blank : (Snippet.ofText draft.table).isBlank = true) : FirstFault draft .blankTable
  /-- A field repeats something, and none before it does. -/
  | field {before after : List Field} {field : Field} {error : EntityError}
      (table : (Snippet.ofText draft.table).isBlank = false)
      (split : draft.described = before ++ field :: after) (distinct : FieldList.Distinct before)
      (repeats : FieldList.Repeats before field error) : FirstFault draft error

/-- The entity knows the described fields by their names, and no others. -/
structure Describes (draft : EntityDraft) (entity : Entity) : Prop where
  names : entity.names = draft.fields.map (·.1)
  declared : ∀ field ∈ draft.fields,
    entity.label? field.1 = some (field.2.label?.getD field.1) ∧
      entity.type? field.1 = some field.2.type ∧
      entity.select? field.1 = field.2.select? ∧ entity.column? field.1 = field.2.column?
  undeclared : ∀ name, name ∉ entity.names →
    entity.label? name = none ∧ entity.type? name = none ∧
      entity.select? name = none ∧ entity.column? name = none
  labels : ∀ name ∈ entity.names, ∀ other ∈ entity.names,
    entity.label? name = entity.label? other → name = other
  /-- Whatever label a selected field without one would get, the list is the same. -/
  selected : ∀ fallback : String → String,
    (entity.selections.map fun selection => (selection.1.label, selection.2)) =
      entity.names.filterMap fun name =>
        (entity.select? name).map fun snippet =>
          ((entity.label? name).getD (fallback name), snippet)
  /-- Whatever type a filtered field without one would have, its condition is the same. -/
  filtered : ∀ (resolver : Resolver) (fallback : FieldType) (filter : Filter),
    resolver.filterCondition? entity filter =
      match entity.column? filter.field with
      | none => .error (.unmappedFilterField filter.field)
      | some column =>
          .ok (filter.condition? ((entity.type? filter.field).getD fallback) column
            resolver.dialect resolver.correction)

variable {draft : EntityDraft} {entity : Entity}

theorem distinct_described_iff :
    FieldList.Distinct draft.described ↔
      (draft.fields.map (·.1)).Nodup ∧
        (draft.fields.map fun field => field.2.label?.getD field.1).Nodup := by
  rw [FieldList.Distinct, described, List.map_map, List.map_map]
  rfl

theorem build_of_blank (blank : (Snippet.ofText draft.table).isBlank = true) :
    draft.build = .error .blankTable :=
  dif_pos blank

/-- With a table the fields alone decide. -/
theorem build_of_table (table : (Snippet.ofText draft.table).isBlank = false) :
    draft.build = (FieldList.ofList draft.described).map fun fields =>
      { table := Snippet.ofText draft.table
        fields
        joinCondition? := draft.joinCondition?.bind snippet?
        grouping? := draft.grouping?.bind snippet?
        distinct := draft.distinct
        table_notBlank := table } := by
  rw [build]
  simp only [table, Bool.false_eq_true, dite_false, described]
  rfl

theorem exists_build_iff : (∃ entity, draft.build = .ok entity) ↔ draft.IsWellFormed := by
  cases table : (Snippet.ofText draft.table).isBlank with
  | true =>
      rw [build_of_blank table]
      constructor
      · rintro ⟨entity, ⟨⟩⟩
      · rintro ⟨notBlank, -, -⟩
        rw [table] at notBlank
        cases notBlank
  | false =>
      have fields : (∃ entity, draft.build = .ok entity) ↔
          ∃ fields, FieldList.ofList draft.described = .ok fields := by
        rw [build_of_table table]
        cases FieldList.ofList draft.described <;> simp [Except.map]
      rw [fields, FieldList.exists_ofList_iff, distinct_described_iff]
      exact ⟨fun ⟨names, labels⟩ => ⟨table, names, labels⟩,
        fun ⟨_, names, labels⟩ => ⟨names, labels⟩⟩

theorem build_eq_error_iff {error : EntityError} :
    draft.build = .error error ↔ draft.FirstFault error := by
  cases table : (Snippet.ofText draft.table).isBlank with
  | true =>
      rw [build_of_blank table]
      constructor
      · rintro ⟨⟩
        exact .table table
      · rintro (_ | ⟨notBlank, _, _, _⟩)
        · rfl
        · rw [table] at notBlank
          cases notBlank
  | false =>
      have fields : draft.build = .error error ↔
          FieldList.ofList draft.described = .error error := by
        rw [build_of_table table]
        cases FieldList.ofList draft.described <;> simp [Except.map]
      rw [fields, FieldList.ofList_eq_error_iff]
      constructor
      · rintro ⟨before, field, after, split, distinct, repeats⟩
        exact .field table split distinct repeats
      · rintro (blank | ⟨_, split, distinct, repeats⟩)
        · rw [table] at blank
          cases blank
        · exact ⟨_, _, _, split, distinct, repeats⟩

/-- What an entity has of the description that it is built from. -/
structure Carries (draft : EntityDraft) (entity : Entity) : Prop where
  fields : entity.fields.toList = draft.described
  table : entity.table = .ofText draft.table
  joinCondition? : entity.joinCondition? = draft.joinCondition?.bind snippet?
  grouping? : entity.grouping? = draft.grouping?.bind snippet?
  distinct : entity.distinct = draft.distinct

theorem carries_of_build (built : draft.build = .ok entity) : draft.Carries entity := by
  have table : (Snippet.ofText draft.table).isBlank = false :=
    (exists_build_iff.mp ⟨_, built⟩).table
  rw [build_of_table table] at built
  cases fields : FieldList.ofList draft.described with
  | error error =>
      rw [fields] at built
      cases built
  | ok result =>
      rw [fields] at built
      cases built
      exact ⟨FieldList.toList_ofList fields, rfl, rfl, rfl, rfl⟩

theorem toList_fields_of_build (built : draft.build = .ok entity) :
    entity.fields.toList = draft.described :=
  (carries_of_build built).fields

/-- A described field is found under its name. -/
theorem field?_of_build {field : String × FieldMapping} (built : draft.build = .ok entity)
    (declared : field ∈ draft.fields) :
    entity.field? field.1 = some (.ofMapping field.1 field.2) := by
  have member : Field.ofMapping field.1 field.2 ∈ entity.fields.toList := by
    rw [toList_fields_of_build built]
    exact List.mem_map_of_mem declared
  exact Entity.field?_name member

theorem describes_of_build (built : draft.build = .ok entity) : draft.Describes entity where
  names := by
    rw [Entity.names, toList_fields_of_build built, described, List.map_map]
    rfl
  declared := by
    intro field declared
    rw [Entity.label?, Entity.type?, Entity.select?, Entity.column?, field?_of_build built declared]
    exact ⟨rfl, rfl, rfl, rfl⟩
  undeclared := by
    intro name unknown
    rw [Entity.label?, Entity.type?, Entity.select?, Entity.column?,
      Entity.field?_eq_none_iff.mpr unknown]
    exact ⟨rfl, rfl, rfl, rfl⟩
  labels _ known _ other_known same := Entity.label?_injective known same other_known
  selected := entity.selections_eq_names
  filtered resolver fallback filter := resolver.filterCondition?_eq_column entity filter fallback

/-- A description is examined from the table on, field by field, and makes an entity when nothing is
wrong with it. -/
theorem build_examines (draft : EntityDraft) :
    ((∃ entity, draft.build = .ok entity) ↔ draft.IsWellFormed) ∧
      (∀ error, draft.build = .error error ↔ draft.FirstFault error) ∧
      ∀ entity, draft.build = .ok entity → draft.Describes entity :=
  ⟨exists_build_iff, fun _ => build_eq_error_iff, fun _ => describes_of_build⟩

/-- Orders of which one field is not selected and another has a column and a label of its own. -/
def orderDraft : EntityDraft where
  table := "orders_:year: o"
  fields :=
    [("id", .selected "o.id" .long),
      ("title", ((FieldMapping.selected "coalesce(o.title, :untitled)" .text).withColumn
        "o.title").withLabel "name"),
      ("placed", .ofColumn "o.placed" .dateTime)]
  joinCondition? := some " "

/-- A further field under a label that is already used is refused, and so the first three fields
alone make an entity. -/
theorem build_examines_orderDraft :
    (∃ entity, orderDraft.build = .ok entity ∧ orderDraft.Describes entity) ∧
      (orderDraft.addField "name" (.unmapped .text)).build =
        .error (.repeatedLabel "name" "name") := by
  obtain ⟨accepted, -, describes⟩ := build_examines orderDraft
  obtain ⟨-, refused, -⟩ := build_examines (orderDraft.addField "name" (.unmapped .text))
  obtain ⟨entity, built⟩ := accepted.mpr ⟨by decide +kernel, by decide, by decide⟩
  have split : (orderDraft.addField "name" (.unmapped .text)).described =
      orderDraft.described ++ [Field.ofMapping "name" (.unmapped .text)] := rfl
  refine ⟨⟨entity, built, describes entity built⟩,
    (refused _).mpr (.field (by decide +kernel) split ?_ ?_)⟩
  · exact distinct_described_iff.mpr ⟨by decide, by decide⟩
  · exact .label (by decide) (by decide)

end EntityDraft

end EntitySearch
