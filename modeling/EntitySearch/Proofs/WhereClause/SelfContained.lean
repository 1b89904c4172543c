import EntitySearch.Proofs.WhereClause.Reader

/-!
# Self-contained texts

A text is self-contained when its quotations end within it, its parentheses balance and its
placeholders have one value each.  Such a text is a condition on its own, whatever else it says, and
it stays that condition between parentheses in any other text.
-/

namespace EntitySearch.WhereClause

/-- The number of parentheses that are open behind a text, if none is closed that is not open. -/
def depthAfter : Nat → List Char → Option Nat
  | depth, [] => some depth
  | depth, char :: rest =>
      if char = '(' then depthAfter (depth + 1) rest
      else if char = ')' then
        match depth with
        | 0 => none
        | depth + 1 => depthAfter depth rest
      else depthAfter depth rest

/-- The characters outside of quotations. -/
def unquoted (text : List Char) : List Char :=
  ((glyphs none text).filter fun glyph => !glyph.quoted).map (·.char)

/-- A text that is complete without anything around it; only what stands outside of quotations
counts. -/
structure SelfContained (fragment : Fragment) : Prop where
  quotationsEnd : QuotationsEnd fragment.sql.toList
  parenthesesBalance : depthAfter 0 (unquoted fragment.sql.toList) = some 0
  placeholdersBind : (unquoted fragment.sql.toList).count '?' = fragment.params.length

instance (fragment : Fragment) : Decidable (SelfContained fragment) :=
  decidable_of_iff (QuotationsEnd fragment.sql.toList ∧
      depthAfter 0 (unquoted fragment.sql.toList) = some 0 ∧
        (unquoted fragment.sql.toList).count '?' = fragment.params.length)
    ⟨fun ⟨ends, balance, bind⟩ => ⟨ends, balance, bind⟩,
      fun complete =>
        ⟨complete.quotationsEnd, complete.parenthesesBalance, complete.placeholdersBind⟩⟩

/-! ## Marks -/

/-- The character is a mark that a reader counts. -/
def isCounted (char : Char) : Bool := char == '?' || char == '(' || char == ')'

def Glyph.counted? (glyph : Glyph) : Option Char :=
  if !glyph.quoted && isCounted glyph.char then some glyph.char else none

def Lexeme.counted? : Lexeme → Option Char
  | .token single => single.parenthesis?
  | .placeholder => some '?'

theorem Glyph.counted?_of_kind {glyph : Glyph} (kind : glyph.kind ≠ .mark) :
    glyph.counted? = none := by
  obtain ⟨char, quoted⟩ := glyph
  rw [counted?, ite_eq_right_iff]
  intro counted
  simp only [isCounted, Bool.and_eq_true, Bool.not_eq_true', Bool.or_eq_true, beq_iff_eq] at counted
  obtain ⟨rfl, (rfl | rfl) | rfl⟩ := counted
  all_goals exact absurd rfl kind

theorem Token.parenthesis?_ofWord (word : String) : (ofWord word).parenthesis? = none := by
  rw [ofWord]
  split <;> rfl

theorem Token.parenthesis?_ofSign (sign : String) : (ofSign sign).parenthesis? = none := by
  rw [ofSign]
  split <;> rfl

theorem Lexeme.counted?_of_kind {first : Glyph} (rest : List Glyph) (kind : first.kind ≠ .mark) :
    (ofRun? (first :: rest)).bind counted? = none := by
  rw [ofRun?]
  cases known : first.kind with
  | mark => exact absurd known kind
  | quotation => rfl
  | space => rfl
  | word => exact Token.parenthesis?_ofWord _
  | sign => exact Token.parenthesis?_ofSign _

theorem Lexeme.counted?_of_mark {mark : Glyph} (kind : mark.kind = .mark) :
    (ofRun? [mark]).bind counted? = mark.counted? := by
  obtain ⟨char, quoted⟩ := mark
  have plain : quoted = false := by
    cases quoted with
    | false => rfl
    | true => cases kind
  rw [ofRun?, kind, Glyph.counted?, plain]
  by_cases placeholder : char = '?'
  · subst placeholder
    rfl
  by_cases opening : char = '('
  · subst opening
    rfl
  by_cases closing : char = ')'
  · subst closing
    rfl
  simp [placeholder, opening, closing, isCounted, counted?, Token.parenthesis?]

theorem kind_of_isChain {first : Glyph} {rest : List Glyph}
    (glued : (first :: rest).IsChain fun left right => left.glued right = true) :
    ∀ glyph ∈ first :: rest, glyph.kind = first.kind := by
  induction rest generalizing first with
  | nil => simp
  | cons second rest induction =>
      rw [List.isChain_cons_cons, Glyph.glued, Bool.and_eq_true, beq_iff_eq] at glued
      have others := induction glued.2
      rw [← glued.1.1] at others
      rw [List.forall_mem_cons]
      exact ⟨rfl, others⟩

/-- A run is a mark, or has no counted character. -/
theorem counted?_ofRun? {run : List Glyph}
    (glued : run.IsChain fun left right => left.glued right = true) :
    ((Lexeme.ofRun? run).bind Lexeme.counted?).toList = run.filterMap Glyph.counted? := by
  cases run with
  | nil => rfl
  | cons first rest =>
      by_cases mark : first.kind = .mark
      · cases rest with
        | nil =>
            rw [Lexeme.counted?_of_mark mark]
            cases counted : first.counted? <;> simp [counted]
        | cons second rest =>
            -- A mark is glued to nothing, so it has no neighbour in its run.
            rw [List.isChain_cons_cons, Glyph.glued, mark] at glued
            exact absurd glued.1 (by simp)
      · rw [Lexeme.counted?_of_kind rest mark, Option.toList_none, eq_comm,
          List.filterMap_eq_nil_iff]
        intro glyph member
        apply Glyph.counted?_of_kind
        rwa [kind_of_isChain glued glyph member]

/-- The counted characters of a text are those of its lexemes. -/
theorem filterMap_counted?_lexemes (text : List Char) :
    (lexemes text).filterMap Lexeme.counted? = (unquoted text).filter isCounted := by
  have runs : ∀ run ∈ (glyphs none text).splitBy Glyph.glued,
      ((Lexeme.ofRun? run).bind Lexeme.counted?).toList = run.filterMap Glyph.counted? :=
    fun run member => counted?_ofRun? (List.isChain_of_mem_splitBy member)
  have counted :
      (unquoted text).filter isCounted = (glyphs none text).filterMap Glyph.counted? := by
    rw [unquoted]
    induction glyphs none text with
    | nil => rfl
    | cons glyph glyphs induction =>
        rw [List.filterMap_cons, Glyph.counted?]
        cases quoted : glyph.quoted <;> cases wanted : isCounted glyph.char <;>
          simp [quoted, wanted, induction]
  calc (lexemes text).filterMap Lexeme.counted?
    _ = ((glyphs none text).splitBy Glyph.glued).flatMap
          fun run => ((Lexeme.ofRun? run).bind Lexeme.counted?).toList := by
        rw [lexemes, List.filterMap_filterMap, List.filterMap_eq_flatMap_toList]
    _ = ((glyphs none text).splitBy Glyph.glued).flatMap fun run =>
          run.filterMap Glyph.counted? := List.flatMap_congr runs
    _ = (glyphs none text).filterMap Glyph.counted? := by
        rw [List.flatMap_def, ← List.filterMap_flatten, List.flatten_splitBy]
    _ = (unquoted text).filter isCounted := counted.symm

/-! ## Conditions on their own -/

/-- Parentheses alone decide how many are open. -/
theorem depthAfter_filter {kept : Char → Bool} (opening_kept : kept '(' = true)
    (closing_kept : kept ')' = true) (depth : Nat) (text : List Char) :
    depthAfter depth (text.filter kept) = depthAfter depth text := by
  induction text generalizing depth with
  | nil => rfl
  | cons char text induction =>
      by_cases opening : char = '('
      · simp [opening, opening_kept, depthAfter, induction]
      by_cases closing : char = ')'
      · cases depth <;> simp [closing, closing_kept, depthAfter, induction]
      cases kept_char : kept char <;>
        simp [kept_char, opening, closing, depthAfter, induction]

theorem Token.ne_of_parenthesis? {token : Token} {char : Char}
    (found : token.parenthesis? = some char) : char ≠ '?' := by
  cases token <;> cases found <;> decide

/-- As many values as placeholders can be assigned, and that adds no parenthesis. -/
theorem exists_assign {lexemes : List Lexeme} {values : List Value}
    (bound : (lexemes.filterMap Lexeme.counted?).count '?' = values.length) :
    ∃ tokens, assign lexemes values = some tokens ∧
      tokens.filterMap Token.parenthesis? =
        (lexemes.filterMap Lexeme.counted?).filter fun char => char != '?' := by
  induction lexemes generalizing values with
  | nil =>
      obtain rfl : values = [] := List.length_eq_zero_iff.mp bound.symm
      exact ⟨[], rfl, rfl⟩
  | cons lexeme lexemes induction =>
      cases lexeme with
      | token token =>
          cases found : token.parenthesis? with
          | none =>
              have rest_bound : (lexemes.filterMap Lexeme.counted?).count '?' = values.length := by
                simpa [Lexeme.counted?, found] using bound
              obtain ⟨tokens, assigned, parentheses⟩ := induction rest_bound
              refine ⟨token :: tokens, by simp [assign, assigned], ?_⟩
              simp [Lexeme.counted?, found, parentheses]
          | some char =>
              have parenthesis := Token.ne_of_parenthesis? found
              have rest_bound : (lexemes.filterMap Lexeme.counted?).count '?' = values.length := by
                simpa [Lexeme.counted?, found, parenthesis] using bound
              obtain ⟨tokens, assigned, parentheses⟩ := induction rest_bound
              refine ⟨token :: tokens, by simp [assign, assigned], ?_⟩
              simp [Lexeme.counted?, found, parenthesis, parentheses]
      | placeholder =>
          obtain ⟨value, values, rfl⟩ : ∃ value rest, values = value :: rest := by
            apply List.exists_cons_of_ne_nil
            rintro rfl
            simp [Lexeme.counted?] at bound
          have rest_bound : (lexemes.filterMap Lexeme.counted?).count '?' = values.length := by
            simpa [Lexeme.counted?] using bound
          obtain ⟨tokens, assigned, parentheses⟩ := induction rest_bound
          refine ⟨.value value :: tokens, by simp [assign, assigned], ?_⟩
          rw [List.filterMap_cons_none rfl, parentheses]
          rfl

/-- As many levels stay open as parentheses do, besides the outermost one. -/
theorem exists_run {tokens : List Token} {levels : List Level} {depth final : Nat}
    (nested : depthAfter depth (tokens.filterMap Token.parenthesis?) = some final)
    (opened : levels.length = depth + 1) :
    ∃ after, run levels tokens = some after ∧ after.length = final + 1 := by
  induction tokens generalizing levels depth with
  | nil =>
      cases nested
      exact ⟨levels, rfl, opened⟩
  | cons token tokens induction =>
      obtain ⟨level, levels, rfl⟩ := List.exists_cons_of_length_eq_add_one opened
      -- Only parentheses change the number of levels, and only a closing one can fail.
      cases token with
      | opening =>
          rw [run_cons tokens rfl]
          exact induction nested (by simpa using opened)
      | closing =>
          cases depth with
          | zero => cases nested
          | succ depth =>
              obtain ⟨outer, levels, rfl⟩ := List.exists_cons_of_length_eq_add_one
                (show levels.length = depth + 1 by simpa using opened)
              rw [run_cons tokens rfl]
              exact induction nested (by simpa using opened)
      | _ =>
          rw [run_cons tokens rfl]
          exact induction nested (by simpa using opened)

/-- A self-contained text is a condition on its own and between parentheses. -/
theorem SelfContained.exists_condition {fragment : Fragment} (complete : SelfContained fragment) :
    ∃ tokens formula, tokens? fragment = some tokens ∧
      readCondition? fragment = some formula ∧
        IsConjunct (.opening :: tokens ++ [.closing]) formula := by
  have counted := filterMap_counted?_lexemes fragment.sql.toList
  have bound : ((lexemes fragment.sql.toList).filterMap Lexeme.counted?).count '?' =
      fragment.params.length := by
    rw [counted, List.count_filter rfl, complete.placeholdersBind]
  obtain ⟨tokens, assigned, parentheses⟩ := exists_assign bound
  have fragment_tokens : tokens? fragment = some tokens :=
    tokens?_eq_some_iff.mpr ⟨complete.quotationsEnd, assigned⟩
  have balanced : depthAfter 0 (tokens.filterMap Token.parenthesis?) = some 0 := by
    rw [parentheses, counted, depthAfter_filter rfl rfl, depthAfter_filter rfl rfl,
      complete.parenthesesBalance]
  obtain ⟨levels, success, single⟩ := exists_run balanced
    (show [({} : Level)].length = 0 + 1 from rfl)
  obtain ⟨level, rfl⟩ := List.length_eq_one_iff.mp single
  refine ⟨tokens, level.formula, fragment_tokens, ?_, isConjunct_group success rfl⟩
  simp [readCondition?, readLevel?, fragment_tokens, success]

end EntitySearch.WhereClause
