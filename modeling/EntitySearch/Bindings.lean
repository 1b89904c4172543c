import EntitySearch.Value

/-!
# Bindings

The values that a search supplies for the parameters embedded in an entity's texts, by name.  A name
bound again forgets its earlier value.
-/

namespace EntitySearch

/-- Values by name. -/
structure Bindings where
  /-- The names with their values; of two entries with one name the first counts. -/
  entries : List (String × Value) := []
  deriving DecidableEq, Repr

namespace Bindings

/-- Binds a name, in place of an earlier value. -/
def insert (bindings : Bindings) (name : String) (value : Value) : Bindings :=
  ⟨(name, value) :: bindings.entries.filter (·.1 != name)⟩

/-- The value of a name. -/
def get? (bindings : Bindings) (name : String) : Option Value := bindings.entries.lookup name

/-- The bindings of a list of entries, of which later ones replace earlier ones. -/
def ofList (entries : List (String × Value)) : Bindings :=
  entries.foldl (fun bindings (name, value) => bindings.insert name value) {}

@[simp]
theorem get?_empty (name : String) : ({} : Bindings).get? name = none := rfl

@[simp]
theorem get?_insert_self (bindings : Bindings) (name : String) (value : Value) :
    (bindings.insert name value).get? name = some value := by
  simp [insert, get?]

theorem get?_insert_of_ne (bindings : Bindings) {name other : String} (value : Value)
    (different : other ≠ name) : (bindings.insert name value).get? other = bindings.get? other := by
  have skipped : (other == name) = false := by simpa using different
  simp only [insert, get?, List.lookup_cons, skipped]
  induction bindings.entries with
  | nil => rfl
  | cons entry entries ih =>
      obtain ⟨entryName, entryValue⟩ := entry
      by_cases kept : entryName = name
      · have unequal : (other == entryName) = false := by simpa [kept] using different
        simp [kept, List.lookup_cons, skipped, ih]
      · simp [kept, List.lookup_cons, ih]

end Bindings

end EntitySearch
