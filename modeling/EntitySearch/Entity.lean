import EntitySearch.Entity.FieldType
import EntitySearch.Error
import EntitySearch.Snippet

/-!
# Entities

An entity says how its fields are found in a database: the table, an optional join condition and
grouping, and for every field its type, the label of its column in a list, the expression that a
list selects for it and the column that filters and sums use.  The names of the fields are distinct,
and so are their labels.
-/

namespace EntitySearch

/-- How one field is found in the database. -/
structure FieldMapping where
  /-- The type of the values. -/
  type : FieldType
  /-- The label of the field's column in a list; the name of the field when absent. -/
  label? : Option String := none
  /-- The expression that a list selects; the field is not selected when absent. -/
  select? : Option Snippet := none
  /-- The column that filters and sums use. -/
  column? : Option String := none
  deriving DecidableEq, Repr

namespace FieldMapping

/-- A selected field.  An expression without parameters is the field's column as well. -/
def selected (expression : String) (type : FieldType) : FieldMapping :=
  let snippet := Snippet.ofText expression
  { type
    select? := some snippet
    column? := if snippet.markers.isEmpty then some expression else none }

/-- A field that is not selected but has a column. -/
def ofColumn (column : String) (type : FieldType) : FieldMapping := { type, column? := some column }

/-- A field with neither an expression nor a column. -/
def unmapped (type : FieldType) : FieldMapping := { type }

/-- The mapping with another label. -/
def withLabel (mapping : FieldMapping) (label : String) : FieldMapping :=
  { mapping with label? := some label }

/-- The mapping with another column. -/
def withColumn (mapping : FieldMapping) (column : String) : FieldMapping :=
  { mapping with column? := some column }

end FieldMapping

/-- A field of an entity. -/
structure Field where
  /-- The name that searches use. -/
  name : String
  /-- The label of the field's column in a list. -/
  label : String
  /-- The type of the values. -/
  type : FieldType
  /-- The expression that a list selects; the field is not selected when absent. -/
  select? : Option Snippet
  /-- The column that filters and sums use. -/
  column? : Option String
  deriving DecidableEq, Repr

namespace Field

/-- The field with a name and a mapping. -/
def ofMapping (name : String) (mapping : FieldMapping) : Field where
  name := name
  label := mapping.label?.getD name
  type := mapping.type
  select? := mapping.select?
  column? := mapping.column?

end Field

/-- Fields with distinct names and distinct labels. -/
structure FieldList where
  /-- The fields, in the order of their columns. -/
  toList : List Field
  /-- No two fields have one name. -/
  names_nodup : (toList.map (·.name)).Nodup
  /-- No two fields have one label. -/
  labels_nodup : (toList.map (·.label)).Nodup
  deriving DecidableEq, Repr

namespace FieldList

/-- No fields. -/
def empty : FieldList := ⟨[], by simp, by simp⟩

/-- The fields with another one behind them.  Its name is looked at before its label. -/
def push (fields : FieldList) (field : Field) : Except EntityError FieldList :=
  if known : field.name ∈ fields.toList.map (·.name) then
    .error (.repeatedField field.name)
  else if used : field.label ∈ fields.toList.map (·.label) then
    .error (.repeatedLabel field.label field.name)
  else
    .ok
      { toList := fields.toList ++ [field]
        names_nodup := by
          rw [List.map_append, List.nodup_append]
          refine ⟨fields.names_nodup, by simp, ?_⟩
          intro name member other single same
          simp only [List.map_cons, List.map_nil, List.mem_singleton] at single
          exact known (single ▸ same ▸ member)
        labels_nodup := by
          rw [List.map_append, List.nodup_append]
          refine ⟨fields.labels_nodup, by simp, ?_⟩
          intro label member other single same
          simp only [List.map_cons, List.map_nil, List.mem_singleton] at single
          exact used (single ▸ same ▸ member) }

/-- Fields in their order; the first repetition is an error. -/
def ofList (fields : List Field) : Except EntityError FieldList := fields.foldlM push empty

theorem toList_push {fields pushed : FieldList} {field : Field}
    (success : fields.push field = .ok pushed) : pushed.toList = fields.toList ++ [field] := by
  rw [push] at success
  split at success
  · cases success
  · split at success
    · cases success
    · cases success
      rfl

end FieldList

/-- An entity that can be searched. -/
structure Entity where
  /-- The table, or whatever else stands for it. -/
  table : Snippet
  /-- The fields. -/
  fields : FieldList
  /-- The condition that every row meets. -/
  joinCondition? : Option Snippet
  /-- The grouping of the rows. -/
  grouping? : Option Snippet
  /-- Equal rows are listed once. -/
  distinct : Bool
  /-- The table is not blank. -/
  table_notBlank : table.isBlank = false
  deriving DecidableEq, Repr

namespace Entity

/-- The field with a name. -/
def field? (entity : Entity) (name : String) : Option Field :=
  entity.fields.toList.find? (·.name == name)

/-- The column of the field with a name. -/
def column? (entity : Entity) (name : String) : Option String :=
  (entity.field? name).bind (·.column?)

/-- The label under which the field with a name is selected. -/
def selectedLabel? (entity : Entity) (name : String) : Option String :=
  (entity.field? name).bind fun field => field.select?.map fun _ => field.label

/-- The selected fields with their expressions, in order. -/
def selections (entity : Entity) : List (Field × Snippet) :=
  entity.fields.toList.filterMap fun field => field.select?.map fun snippet => (field, snippet)

/-- The labels of the selected fields, in order. -/
def labels (entity : Entity) : List String :=
  entity.selections.map fun selection => selection.1.label

end Entity

/-- The description of an entity, before it has been examined. -/
structure EntityDraft where
  /-- The table. -/
  table : String
  /-- The fields by name, in the order of their columns. -/
  fields : List (String × FieldMapping) := []
  /-- The condition that every row meets; blank text is no condition. -/
  joinCondition? : Option String := none
  /-- The grouping of the rows; blank text is no grouping. -/
  grouping? : Option String := none
  /-- Equal rows are listed once. -/
  distinct : Bool := false
  deriving DecidableEq, Repr

namespace EntityDraft

/-- The description with a field behind the others. -/
def addField (draft : EntityDraft) (name : String) (mapping : FieldMapping) : EntityDraft :=
  { draft with fields := draft.fields ++ [(name, mapping)] }

/-- What a description goes on with. -/
inductive Step where
  /-- A field behind the others. -/
  | field (name : String) (mapping : FieldMapping)
  /-- The join condition, in place of an earlier one. -/
  | joinCondition (text : String)
  /-- The grouping, in place of an earlier one. -/
  | grouping (text : String)
  /-- Whether equal rows are listed once. -/
  | distinct (distinct : Bool)
  deriving DecidableEq, Repr

/-- The description after a step. -/
def step (draft : EntityDraft) : Step → EntityDraft
  | .field name mapping => draft.addField name mapping
  | .joinCondition text => { draft with joinCondition? := some text }
  | .grouping text => { draft with grouping? := some text }
  | .distinct distinct => { draft with distinct }

/-- The description after some steps. -/
def run (draft : EntityDraft) (steps : List Step) : EntityDraft := steps.foldl step draft

/-- The snippet of a text that is not blank. -/
def snippet? (text : String) : Option Snippet :=
  let snippet := Snippet.ofText text
  if snippet.isBlank then none else some snippet

/-- The entity that is described, if the table is not blank and no field repeats a name or a
label. -/
def build (draft : EntityDraft) : Except EntityError Entity :=
  let table := Snippet.ofText draft.table
  if blank : table.isBlank = true then .error .blankTable
  else do
    let fields ← FieldList.ofList (draft.fields.map fun field => Field.ofMapping field.1 field.2)
    return {
      table
      fields
      joinCondition? := draft.joinCondition?.bind snippet?
      grouping? := draft.grouping?.bind snippet?
      distinct := draft.distinct
      table_notBlank := by simpa using blank }

end EntityDraft

end EntitySearch
