import EntitySearch.Value

/-!
# Fragments of statements

A fragment is a piece of a statement together with the values of its placeholders, in the order of
the placeholders.  Putting pieces together puts their values together in the same order.
-/

namespace EntitySearch

/-- A piece of a statement with the values that its placeholders bind. -/
structure Fragment where
  /-- The text, with a question mark for every placeholder. -/
  sql : String
  /-- The values of the placeholders, from left to right. -/
  params : List Value
  deriving DecidableEq, Repr

namespace Fragment

/-- A text without placeholders. -/
def ofText (sql : String) : Fragment := ⟨sql, []⟩

/-- One piece after the other. -/
def append (left right : Fragment) : Fragment :=
  ⟨left.sql ++ right.sql, left.params ++ right.params⟩

instance : Append Fragment := ⟨append⟩

instance : Inhabited Fragment := ⟨ofText ""⟩

/-- The pieces one after another with a separator between them. -/
def join (separator : String) : List Fragment → Fragment
  | [] => ofText ""
  | [part] => part
  | part :: next :: parts => part ++ ofText separator ++ join separator (next :: parts)

/-- The piece with a text before and a text behind it. -/
def wrap (before : String) (part : Fragment) (after : String) : Fragment :=
  ofText before ++ part ++ ofText after

@[simp]
theorem sql_append (left right : Fragment) : (left ++ right).sql = left.sql ++ right.sql := rfl

@[simp]
theorem params_append (left right : Fragment) :
    (left ++ right).params = left.params ++ right.params := rfl

@[simp]
theorem sql_ofText (sql : String) : (ofText sql).sql = sql := rfl

@[simp]
theorem params_ofText (sql : String) : (ofText sql).params = [] := rfl

theorem append_assoc (first second third : Fragment) :
    first ++ second ++ third = first ++ (second ++ third) := by
  change Fragment.mk _ _ = Fragment.mk _ _
  simp [String.append_assoc]

/-- Joining keeps all values in their order. -/
@[simp]
theorem params_join (separator : String) (parts : List Fragment) :
    (join separator parts).params = parts.flatMap (·.params) := by
  fun_induction join separator parts with
  | case1 => rfl
  | case2 part => simp
  | case3 part next parts ih => simp [ih]

@[simp]
theorem sql_wrap (before : String) (part : Fragment) (after : String) :
    (part.wrap before after).sql = before ++ part.sql ++ after := rfl

@[simp]
theorem params_wrap (before : String) (part : Fragment) (after : String) :
    (part.wrap before after).params = part.params := by
  simp [wrap]

end Fragment

end EntitySearch
