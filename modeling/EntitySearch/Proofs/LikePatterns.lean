import EntitySearch.Proofs.WhereClause.Conditions
import Mathlib.Data.List.Infix

/-!
# Patterns

In a pattern a percent sign stands for any characters and an underscore for any one character, and
neither can be written otherwise.  A condition puts the text of its value into a pattern as it is,
so the pattern finds just the texts with that text in the right place if there is no such sign in
it, and finds others as well if there is one.
-/

namespace EntitySearch

namespace LikePattern

/-- The pattern finds the text. -/
def finds : List Char → List Char → Bool
  | [], text => text.isEmpty
  | char :: pattern, text =>
      if char = '%' then text.tails.any (finds pattern)
      else (if char = '_' then text.head?.isSome else text.head? == some char) &&
        finds pattern text.tail

/-- A character that does not stand for itself in a pattern. -/
def IsWildcard (char : Char) : Prop := char = '%' ∨ char = '_'

instance : DecidablePred IsWildcard := fun char =>
  inferInstanceAs (Decidable (char = '%' ∨ char = '_'))

/-- What the sign of a pattern stands for. -/
def StandsFor (char : Char) (part : List Char) : Prop :=
  if char = '%' then True else if char = '_' then part.length = 1 else part = [char]

variable {char : Char} {pattern text : List Char}

@[simp]
theorem finds_nil : finds [] text = true ↔ text = [] := by
  simp [finds]

/-- The first sign of a pattern stands for a front of the text, and the others find the rest. -/
theorem finds_cons :
    finds (char :: pattern) text = true ↔
      ∃ part rest, text = part ++ rest ∧ StandsFor char part ∧ finds pattern rest = true := by
  rw [finds]
  unfold StandsFor
  split_ifs with percent underscore
  · simp only [List.any_eq_true, List.mem_tails, true_and]
    exact ⟨fun ⟨rest, ⟨part, split⟩, found⟩ => ⟨part, rest, split.symm, found⟩,
      fun ⟨part, rest, split, found⟩ => ⟨rest, ⟨part, split.symm⟩, found⟩⟩
  · cases text <;> simp [List.length_eq_one_iff]
  · cases text with
    | nil => simp
    | cons first text =>
        rw [eq_comm]
        simp

theorem standsFor_percent (part : List Char) : StandsFor '%' part := by
  trivial

theorem standsFor_iff_of_plain (plain : ¬IsWildcard char) {part : List Char} :
    StandsFor char part ↔ part = [char] := by
  obtain ⟨percent, underscore⟩ := not_or.mp plain
  rw [StandsFor, if_neg percent, if_neg underscore]

/-- A pattern in two parts finds what falls into two parts that they find. -/
theorem finds_append {left right : List Char} :
    finds (left ++ right) text = true ↔
      ∃ before after, text = before ++ after ∧ finds left before = true ∧
        finds right after = true := by
  induction left generalizing text with
  | nil => simp
  | cons char left ih =>
      simp only [List.cons_append, finds_cons, ih]
      constructor
      · rintro ⟨part, _, rfl, stands, before, after, rfl, found, follows⟩
        exact ⟨part ++ before, after, (List.append_assoc ..).symm,
          ⟨part, before, rfl, stands, found⟩, follows⟩
      · rintro ⟨_, after, rfl, ⟨part, before, rfl, stands, found⟩, follows⟩
        exact ⟨part, before ++ after, List.append_assoc .., stands, before, after, rfl, found,
          follows⟩

theorem standsFor_self (char : Char) : StandsFor char [char] := by
  unfold StandsFor
  split_ifs <;> trivial

theorem finds_anything : finds ['%'] text = true :=
  finds_cons.mpr ⟨text, [], (List.append_nil text).symm, standsFor_percent text, rfl⟩

theorem finds_self (pattern : List Char) : finds pattern pattern = true := by
  induction pattern with
  | nil => rfl
  | cons char pattern ih =>
      exact finds_cons.mpr ⟨[char], pattern, rfl, standsFor_self char, ih⟩

/-- A pattern without wildcards finds itself alone. -/
theorem finds_plain (plain : ∀ char ∈ pattern, ¬IsWildcard char) :
    finds pattern text = true ↔ text = pattern := by
  induction pattern generalizing text with
  | nil => exact finds_nil
  | cons char pattern ih =>
      have plain_tail : ∀ other ∈ pattern, ¬IsWildcard other := fun other member =>
        plain other (List.mem_cons_of_mem char member)
      simp only [finds_cons, standsFor_iff_of_plain (plain char List.mem_cons_self), ih plain_tail]
      constructor
      · rintro ⟨_, _, rfl, rfl, rfl⟩
        rfl
      · rintro rfl
        exact ⟨[char], pattern, rfl, rfl, rfl⟩

/-! ## What a pattern with wildcards finds -/

/-- Nothing for a percent sign, a letter for an underscore, and every other character for itself. -/
def fill (char : Char) : List Char :=
  if char = '%' then [] else if char = '_' then ['a'] else [char]

theorem standsFor_fill (char : Char) : StandsFor char (fill char) := by
  unfold StandsFor fill
  split_ifs <;> trivial

theorem not_isWildcard_of_mem_fill {other : Char} (member : other ∈ fill char) :
    ¬IsWildcard other := by
  unfold fill at member
  split_ifs at member with percent underscore
  · cases member
  · rw [List.mem_singleton.mp member]
    decide
  · rw [List.mem_singleton.mp member]
    exact not_or.mpr ⟨percent, underscore⟩

theorem finds_flatMap_fill (pattern : List Char) : finds pattern (pattern.flatMap fill) = true := by
  induction pattern with
  | nil => rfl
  | cons char pattern ih =>
      exact finds_cons.mpr ⟨fill char, pattern.flatMap fill, rfl, standsFor_fill char, ih⟩

/-! ## A text in its place -/

/-- Between the two texts, a pattern finds the texts that have what it finds in the place. -/
def Puts (before after : List Char) (place : List Char → List Char → Prop) : Prop :=
  ∀ pattern text, finds (before ++ pattern ++ after) text = true ↔
    ∃ found, finds pattern found = true ∧ place found text

theorem puts_within : Puts ['%'] ['%'] (· <:+: ·) := by
  intro pattern text
  simp only [finds_append]
  constructor
  · rintro ⟨_, after, rfl, ⟨before, found, rfl, -, matched⟩, -⟩
    exact ⟨found, matched, before, after, rfl⟩
  · rintro ⟨found, matched, before, after, rfl⟩
    exact ⟨before ++ found, after, rfl, ⟨before, found, rfl, finds_anything, matched⟩,
      finds_anything⟩

theorem puts_atStart : Puts [] ['%'] (· <+: ·) := by
  intro pattern text
  rw [List.nil_append, finds_append]
  constructor
  · rintro ⟨found, after, rfl, matched, -⟩
    exact ⟨found, matched, after, rfl⟩
  · rintro ⟨found, matched, after, rfl⟩
    exact ⟨found, after, rfl, matched, finds_anything⟩

theorem puts_atEnd : Puts ['%'] [] (· <:+ ·) := by
  intro pattern text
  rw [List.append_nil, finds_append]
  constructor
  · rintro ⟨before, found, rfl, -, matched⟩
    exact ⟨found, matched, before, rfl⟩
  · rintro ⟨found, matched, before, rfl⟩
    exact ⟨before, found, rfl, finds_anything, matched⟩

/-- A pattern means the text it is made around just if that text has no wildcard in it: with one,
the filled pattern is found without having the text anywhere. -/
theorem Puts.forall_finds_iff {before after sought : List Char}
    {place : List Char → List Char → Prop} (puts : Puts before after place)
    (within : ∀ text, place text text)
    (places : ∀ part text, place part text → part <:+: text) :
    (∀ text, finds (before ++ sought ++ after) text = true ↔ place sought text) ↔
      ∀ char ∈ sought, ¬IsWildcard char := by
  constructor
  · intro exact char member
    have found : finds (before ++ sought ++ after) (sought.flatMap fill) = true :=
      (puts sought _).mpr ⟨sought.flatMap fill, finds_flatMap_fill sought, within _⟩
    have placed : sought <:+: sought.flatMap fill := places _ _ ((exact _).mp found)
    obtain ⟨source, -, filled⟩ := List.mem_flatMap.mp (placed.subset member)
    exact not_isWildcard_of_mem_fill filled
  · intro plain text
    rw [puts sought text]
    simp only [finds_plain plain, exists_eq_left]

end LikePattern

/-! ## The pattern of a filter -/

/-- Where the operator looks for a text in another. -/
inductive Operator.Seeks : Operator → (List Char → List Char → Prop) → Prop
  | contains : Seeks contains (· <:+: ·)
  | startsWith : Seeks startsWith (· <+: ·)
  | endsWith : Seeks endsWith (· <:+ ·)

namespace Operator.Seeks

variable {operator : Operator} {place : List Char → List Char → Prop}

theorem refl (seeks : operator.Seeks place) (text : List Char) : place text text := by
  cases seeks with
  | contains => exact List.infix_rfl
  | startsWith => exact List.prefix_rfl
  | endsWith => exact List.suffix_rfl

theorem isInfix (seeks : operator.Seeks place) {part text : List Char} (placed : place part text) :
    part <:+: text := by
  cases seeks with
  | contains => exact placed
  | startsWith => exact List.IsPrefix.isInfix placed
  | endsWith => exact List.IsSuffix.isInfix placed

/-- The operator puts the first present value between texts that look in its place. -/
theorem ofOperator?_eq (seeks : operator.Seeks place) :
    ∃ before after : String, LikePattern.Puts before.toList after.toList place ∧
      ∀ column compared values, Condition.ofOperator? operator column compared values =
        some (Condition.like compared before after (Condition.firstValue values)) := by
  cases seeks with
  | contains => exact ⟨"%", "%", LikePattern.puts_within, fun _ _ _ => rfl⟩
  | startsWith => exact ⟨"", "%", LikePattern.puts_atStart, fun _ _ _ => rfl⟩
  | endsWith => exact ⟨"%", "", LikePattern.puts_atEnd, fun _ _ _ => rfl⟩

end Operator.Seeks

theorem Condition.firstValue_of_firstPresent? {values : List Value} {value : Value}
    (present : Operator.firstPresent? values = some value) : firstValue values = value := by
  rw [firstValue]
  rw [Operator.firstPresent?] at present
  rw [present, Option.getD_some]

theorem Operator.ne_null_of_firstPresent? {values : List Value} {value : Value}
    (present : firstPresent? values = some value) : value ≠ .null := by
  simpa [← Value.isNull_iff] using List.find?_some present

namespace Filter

variable (filter : Filter) (type : FieldType) (column : String) (dialect : Dialect)
  (correction : Correction) {place : List Char → List Char → Prop} {value : Value}

/-- The filter binds a pattern that has the value's text in the place that the operator looks in. -/
theorem exists_pattern (seeks : filter.operator.Seeks place)
    (present : Operator.firstPresent? (filter.boundValues type correction) = some value) :
    ∃ before after pattern : String, LikePattern.Puts before.toList after.toList place ∧
      pattern.toList = before.toList ++ value.display.toList ++ after.toList ∧
      filter.condition? type column dialect correction =
        some ⟨filter.comparedColumn column dialect ++ " like ?", [.text pattern]⟩ := by
  obtain ⟨before, after, puts, ofOperator?_eq⟩ := seeks.ofOperator?_eq
  refine ⟨before, after, before ++ value.display ++ after, puts, by simp, ?_⟩
  rw [condition?, ofOperator?_eq, Condition.firstValue_of_firstPresent? present, Condition.like,
    Condition.pattern_of_ne_null (Operator.ne_null_of_firstPresent? present)]

/-- Whatever its characters are, no text with the value's text in the place is missed. -/
theorem condition?_finds_place (seeks : filter.operator.Seeks place)
    (present : Operator.firstPresent? (filter.boundValues type correction) = some value) :
    ∃ pattern : String,
      filter.condition? type column dialect correction =
          some ⟨filter.comparedColumn column dialect ++ " like ?", [.text pattern]⟩ ∧
        ∀ text : String, place value.display.toList text.toList →
          LikePattern.finds pattern.toList text.toList = true := by
  obtain ⟨before, after, pattern, puts, spelled, bound⟩ :=
    filter.exists_pattern type column dialect correction seeks present
  refine ⟨pattern, bound, fun text placed => ?_⟩
  rw [spelled]
  exact (puts _ _).mpr ⟨value.display.toList, LikePattern.finds_self _, placed⟩

/-- The pattern that a filter binds finds just the texts with the value's text in the place that the
operator looks in, if and only if no character of that text is a wildcard. -/
theorem condition?_finds_iff (seeks : filter.operator.Seeks place)
    (present :
      let corrected :=
        if type.isTemporal then correction.apply filter.operator filter.values else filter.values
      Operator.firstPresent? (if filter.ignoreCase then corrected.map Value.upper else corrected) =
        some value) :
    ∃ pattern : String,
      filter.condition? type column dialect correction =
          some ⟨filter.comparedColumn column dialect ++ " like ?", [.text pattern]⟩ ∧
        ((∀ text : String, LikePattern.finds pattern.toList text.toList = true ↔
            place value.display.toList text.toList) ↔
          ∀ char ∈ value.display.toList, ¬LikePattern.IsWildcard char) := by
  obtain ⟨before, after, pattern, puts, spelled, bound⟩ :=
    filter.exists_pattern type column dialect correction seeks present
  refine ⟨pattern, bound, ?_⟩
  rw [← puts.forall_finds_iff seeks.refl fun _ _ => seeks.isInfix, spelled]
  exact ⟨fun found text => by simpa using found (String.ofList text), fun found text => found _⟩

/-- Asked for texts that start with `5%`, a filter finds others too. -/
theorem condition?_finds_iff_percent :
    let filter : Filter := ⟨"discount", .startsWith, [.null, .text "5%"], true⟩
    filter.operator.Seeks (· <+: ·) ∧
      Operator.firstPresent? (filter.values.map Value.upper) = some (.text "5%") ∧
      ∃ pattern : String,
        filter.condition? .text "t.discount" .mysql .dates =
            some ⟨"upper(t.discount) like ?", [.text pattern]⟩ ∧
          ¬∀ text : String, LikePattern.finds pattern.toList text.toList = true ↔
            "5%".toList <+: text.toList := by
  intro filter
  have present : Operator.firstPresent? (filter.values.map Value.upper) = some (.text "5%") := by
    decide +kernel
  obtain ⟨pattern, bound, means_iff⟩ :=
    condition?_finds_iff filter .text "t.discount" .mysql .dates .startsWith present
  refine ⟨.startsWith, present, pattern, bound, fun means => ?_⟩
  exact means_iff.mp means '%' (by decide) (Or.inl rfl)

end Filter

end EntitySearch
