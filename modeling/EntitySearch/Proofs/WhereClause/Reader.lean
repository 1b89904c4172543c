import EntitySearch.Proofs.WhereClause.Formula

/-!
# Reading a where clause

The tokens of a where clause are read from left to right with one level for every open parenthesis.
Comparisons bind stronger than `and`, and `and` binds stronger than `or`; the first `and` behind a
`between` belongs to it.  The clause is read as a list of conditions that all have to hold.
-/

namespace EntitySearch.WhereClause

/-- A token, or what stands between two parentheses together with its reading. -/
inductive Item where
  | token (token : Token)
  | group (content : List Token) (formula : Formula)
  deriving DecidableEq, Repr

def Item.tokens : Item → List Token
  | .token single => [single]
  | .group content _ => .opening :: content ++ [.closing]

/-- The column at the start of a phrase, and what follows it. -/
def Operand.read? : List Item → Option (Operand × List Item)
  | .token (.name function) :: .group [.name column] _ :: rest =>
      if Text.equalsIgnoringCase "upper" function then some (folded column, rest) else none
  | .token (.name column) :: rest => some (plain column, rest)
  | _ => none

def Predicate.read? : List Item → Option Predicate
  | [.token (.comparison comparison), .token (.value value)] => some (compared comparison value)
  | [.token (.keyword .like), .token (.value pattern)] => some (like pattern)
  | [.token (.keyword .between), .token (.value lower), .token (.keyword .and),
      .token (.value upper)] => some (between lower upper)
  | [.token (.keyword .is), .token (.keyword .null)] => some null
  | [.token (.keyword .is), .token (.keyword .not), .token (.keyword .null)] => some notNull
  | _ => none

/-- The formula of a phrase, which has no connectives of its own. -/
def Formula.ofPhrase (phrase : List Item) : Formula :=
  match phrase with
  | [.group _ formula] => formula
  | _ =>
      let read? := do
        let (operand, rest) ← Operand.read? phrase
        let asked ← Predicate.read? rest
        return Formula.predicate operand asked
      read?.getD (other (phrase.flatMap Item.tokens))

/-- What has been read behind an open parenthesis, or from the start. -/
structure Level where
  /-- All tokens of the level. -/
  content : List Token := []
  /-- What stands before the last `or`. -/
  alternative? : Option Formula := none
  /-- What stands behind it and before the last `and`. -/
  conjuncts : List Formula := []
  /-- What stands behind both. -/
  phrase : List Item := []
  deriving DecidableEq, Repr

namespace Level

/-- The conditions that all have to hold: a single one if there are alternatives. -/
def formulas (level : Level) : List Formula :=
  let conjunction := level.conjuncts ++ [.ofPhrase level.phrase]
  match level.alternative? with
  | none => conjunction
  | some alternative => [.either alternative (.all conjunction)]

def formula (level : Level) : Formula := .all level.formulas

/-- The next `and` belongs to a `between`. -/
def awaitsAnd (phrase : List Item) : Bool :=
  phrase.contains (.token (.keyword .between)) && !phrase.contains (.token (.keyword .and))

def push (level : Level) (item : Item) : Level :=
  { level with content := level.content ++ item.tokens, phrase := level.phrase ++ [item] }

/-- The level with a token that is no parenthesis. -/
def read (level : Level) (token : Token) : Level :=
  match token with
  | .keyword .or =>
      { content := level.content ++ [token], alternative? := some level.formula }
  | .keyword .and =>
      if awaitsAnd level.phrase then level.push (.token token)
      else
        { level with
          content := level.content ++ [token]
          conjuncts := level.conjuncts ++ [.ofPhrase level.phrase]
          phrase := [] }
  | _ => level.push (.token token)

end Level

/-- Reads a token at the innermost one of the open levels. -/
def step : List Level → Token → Option (List Level)
  | levels, .opening => some ({} :: levels)
  | inner :: outer :: levels, .closing =>
      some (outer.push (.group inner.content inner.formula) :: levels)
  | _, .closing => none
  | [], _ => none
  | level :: levels, token => some (level.read token :: levels)

def run (levels : List Level) (tokens : List Token) : Option (List Level) :=
  tokens.foldlM step levels

/-- The level at the end of tokens whose parentheses balance. -/
def readLevel? (tokens : List Token) : Option Level :=
  match run [{}] tokens with
  | some [level] => some level
  | _ => none

/-- The condition that a fragment is, read on its own. -/
def readCondition? (fragment : Fragment) : Option Formula :=
  ((tokens? fragment).bind readLevel?).map Level.formula

/-- The conditions that a where clause asks for; an empty one asks for none. -/
def readClause? (clause : Fragment) : Option (List Formula) :=
  (tokens? clause).bind fun
    | [] => some []
    | .keyword .restrict :: tokens => (readLevel? tokens).map Level.formulas
    | _ => none

/-- Without parentheses, an alternative takes in all conditions around it. -/
example :
    readClause? ⟨" where a = ? or b between ? and ? and upper(c) like ?",
        [.boolean true, .text "k", .text "m", .text "x%"]⟩ =
      some [.either (.predicate (.plain "a") (.compared .equal (.boolean true)))
        (.both (.predicate (.plain "b") (.between (.text "k") (.text "m")))
          (.predicate (.folded "c") (.like (.text "x%"))))] := by
  decide +kernel

/-! ## Levels are read on their own -/

theorem run_cons {levels after : List Level} {token : Token} (tokens : List Token)
    (stepped : step levels token = some after) :
    run levels (token :: tokens) = run after tokens := by
  simp [run, stepped]

theorem run_append {levels after : List Level} {left : List Token} (right : List Token)
    (left_run : run levels left = some after) : run levels (left ++ right) = run after right := by
  rw [run] at left_run
  simp [run, List.foldlM_append, left_run]

theorem step_append {levels after : List Level} {token : Token} (outer : List Level)
    (stepped : step levels token = some after) :
    step (levels ++ outer) token = some (after ++ outer) := by
  cases token with
  | opening =>
      cases stepped
      rfl
  | closing =>
      match levels, stepped with
      | inner :: next :: levels, stepped =>
          cases stepped
          rfl
  | _ =>
      cases levels with
      | nil => cases stepped
      | cons level levels =>
          cases stepped
          rfl

/-- Levels outside of those that the tokens reach stay as they are. -/
theorem run_append_levels {levels after : List Level} {tokens : List Token} (outer : List Level)
    (success : run levels tokens = some after) :
    run (levels ++ outer) tokens = some (after ++ outer) := by
  induction tokens generalizing levels with
  | nil =>
      cases success
      rfl
  | cons token tokens induction =>
      cases stepped : step levels token with
      | none => simp [run, stepped] at success
      | some next =>
          rw [run_cons tokens stepped] at success
          rw [run_cons tokens (step_append outer stepped)]
          exact induction success

/-! ## Conjuncts -/

/-- Read as a phrase of its own, the tokens are the formula, and an `and` behind them is a
connective. -/
def IsConjunct (tokens : List Token) (formula : Formula) : Prop :=
  ∃ phrase, Formula.ofPhrase phrase = formula ∧ Level.awaitsAnd phrase = false ∧
    ∀ (level : Level) (levels : List Level), level.phrase = [] →
      ∃ content, run (level :: levels) tokens = some ({ level with content, phrase } :: levels)

theorem isConjunct_group {tokens : List Token} {formula : Formula} {inner : Level}
    (inner_run : run [{}] tokens = some [inner]) (inner_formula : inner.formula = formula) :
    IsConjunct (.opening :: tokens ++ [.closing]) formula := by
  refine ⟨[.group inner.content formula], rfl, rfl, ?_⟩
  intro level levels fresh
  have opened : run (level :: levels) (.opening :: tokens) = some (inner :: level :: levels) :=
    run_append_levels (level :: levels) inner_run
  have closed : run (inner :: level :: levels) [.closing] =
      some (level.push (.group inner.content inner.formula) :: levels) := rfl
  exact ⟨_, by rw [run_append _ opened, closed, Level.push, fresh, inner_formula]; rfl⟩

/-- Conjuncts with `and` between them are read one after another. -/
theorem run_conjuncts {tokens : List (List Token)} {formulas : List Formula}
    (each : List.Forall₂ IsConjunct tokens formulas) (present : tokens ≠ []) (level : Level)
    (levels : List Level) (fresh : level.phrase = []) :
    ∃ after, run (level :: levels) ([.keyword .and].intercalate tokens) = some (after :: levels) ∧
      after.alternative? = level.alternative? ∧
      after.conjuncts ++ [.ofPhrase after.phrase] = level.conjuncts ++ formulas := by
  induction each generalizing level with
  | nil => contradiction
  | cons first others induction =>
      obtain ⟨phrase, rfl, complete, first_run⟩ := first
      obtain ⟨content, first_run⟩ := first_run level levels fresh
      cases others with
      | nil =>
          rw [List.intercalate_singleton]
          exact ⟨_, first_run, rfl, rfl⟩
      | cons next others =>
          obtain ⟨after, others_run, alternative, conjuncts⟩ := induction (by simp)
            { level with
              content := content ++ [.keyword .and]
              conjuncts := level.conjuncts ++ [.ofPhrase phrase]
              phrase := [] } rfl
          refine ⟨after, ?_, alternative, by simpa using conjuncts⟩
          rw [List.intercalate_cons_cons, List.append_assoc, run_append _ first_run,
            List.singleton_append, run_cons _ rfl, Level.read, if_neg (by simp [complete])]
          exact others_run

/-- Conjuncts with `or` between them are read as alternatives. -/
theorem run_alternatives {tokens : List (List Token)} {formulas : List Formula}
    (each : List.Forall₂ IsConjunct tokens formulas) (present : tokens ≠ []) (level : Level)
    (levels : List Level) (fresh : level.phrase = []) (single : level.conjuncts = []) :
    ∃ after, run (level :: levels) ([.keyword .or].intercalate tokens) = some (after :: levels) ∧
      after.formula = .any (level.alternative?.toList ++ formulas) := by
  induction each generalizing level with
  | nil => contradiction
  | cons first others induction =>
      obtain ⟨phrase, rfl, complete, first_run⟩ := first
      obtain ⟨content, first_run⟩ := first_run level levels fresh
      -- What has been read up to here is one alternative to all that follows.
      have read : Level.formula { level with content, phrase } =
          .any (level.alternative?.toList ++ [.ofPhrase phrase]) := by
        cases level.alternative? <;>
          simp [Level.formula, Level.formulas, single, Formula.all, Formula.any]
      cases others with
      | nil =>
          rw [List.intercalate_singleton]
          exact ⟨_, first_run, read⟩
      | cons next others =>
          obtain ⟨after, others_run, formula⟩ := induction (by simp)
            { content := content ++ [.keyword .or]
              alternative? := some (Level.formula { level with content, phrase }) } rfl rfl
          refine ⟨after, ?_, ?_⟩
          · rw [List.intercalate_cons_cons, List.append_assoc, run_append _ first_run,
              List.singleton_append, run_cons _ rfl]
            exact others_run
          · rw [formula, read, Option.toList_some, List.singleton_append,
              Formula.any_any_append (by simp), List.append_assoc]
            rfl

end EntitySearch.WhereClause
