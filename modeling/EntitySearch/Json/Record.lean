import EntitySearch.Json.Reader

/-!
# Records in JSON text

A record is written as an object, with its fields as members in any order, or as an array of its
fields in their order.  Members that are no fields are skipped.
-/

namespace EntitySearch.Json

/-- Where a field may be left out. -/
inductive Presence where
  /-- Nowhere. -/
  | required
  /-- In objects. -/
  | optional
  /-- In objects and at the end of arrays. -/
  | defaulted
  deriving DecidableEq, Repr

/-- A field of a record that is read. -/
structure RecordField (α : Type) where
  /-- The name of the field. -/
  name : String
  /-- Where the field may be left out. -/
  presence : Presence
  /-- Reads the field into the record. -/
  read : α → Reader α

/-- How a record is read. -/
structure Record (α : Type) where
  /-- The name that messages use. -/
  typeName : String
  /-- The record before any of its fields is read. -/
  blank : α
  /-- The fields in their order. -/
  fields : List (RecordField α)

namespace Record

/-- Reads the fields from an array, up to its closing bracket. -/
def readElements {α : Type} (record : Record α) : List (RecordField α) → Nat → Bool → α → Reader α
  | [], _, _, value => do
      Reader.mark ']'
      return value
  | field :: fields, position, more, value => do
      let more ← if more then Reader.hasElement (position == 0) else pure false
      if more then
        readElements record fields (position + 1) true (← field.read value)
      else if field.presence = .defaulted then
        readElements record fields (position + 1) false value
      else
        Reader.failWith (.wrongLength position record.typeName record.fields.length)

/-- Reads one member of an object into the record and remembers its name. -/
def readMember {α : Type} (record : Record α) (name : String) (state : α × List String) :
    Reader (α × List String) := do
  let (value, seen) := state
  match record.fields.find? (·.name == name) with
  | none =>
      Reader.mark ':'
      Reader.skip
      return (value, seen)
  | some field =>
      if name ∈ seen then Reader.failWith (.repeatedField name)
      Reader.mark ':'
      return (← field.read value, name :: seen)

/-- Reads the record. -/
def read {α : Type} (record : Record α) : Reader α := do
  match ← Reader.peek with
  | '[' =>
      Reader.nested do
        Reader.advance
        record.readElements record.fields 0 true record.blank
  | '\x7b' =>
      let (value, seen) ← Reader.object record.readMember (record.blank, [])
      match record.fields.find? fun field => field.presence == .required && field.name ∉ seen with
      | some field => Reader.failWith (.missingField field.name)
      | none => return value
  | _ => Reader.failUnless ("struct " ++ record.typeName)

end Record

end EntitySearch.Json
