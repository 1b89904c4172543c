import EntitySearch.Alias
import EntitySearch.Proofs.Numerals
import Mathlib.Data.Finset.Card
import Mathlib.Data.List.Forall2
import Mathlib.Order.Interval.Finset.Nat
import Mathlib.Tactic.Linarith

/-!
# Free names

Candidates of which none begins another one stand at different places of a text, so a text has fewer
of them than are tried, and the name that is found stands nowhere in it.  Names that are allocated
one after another, each against the text with the earlier ones behind it, are different from each
other.
-/

namespace EntitySearch

namespace Text

theorem occursIn_iff {pattern text : String} :
    occursIn pattern text = true ↔ ∃ before after, text = before ++ pattern ++ after := by
  rw [occursIn, occurs_iff]
  constructor
  · rintro ⟨before, after, parts⟩
    refine ⟨String.ofList before, String.ofList after, String.toList_injective ?_⟩
    simpa using parts
  · rintro ⟨before, after, rfl⟩
    exact ⟨before.toList, after.toList, by simp⟩

theorem occursIn_self (text : String) : occursIn text text = true :=
  occursIn_iff.mpr ⟨"", "", by simp⟩

theorem occursIn_trans {pattern part text : String} (inner : occursIn pattern part = true)
    (outer : occursIn part text = true) : occursIn pattern text = true := by
  obtain ⟨before, after, rfl⟩ := occursIn_iff.mp inner
  obtain ⟨front, back, rfl⟩ := occursIn_iff.mp outer
  exact occursIn_iff.mpr ⟨front ++ before, after ++ back, by simp [String.append_assoc]⟩

theorem occursIn_append_left {pattern text : String} (other : String)
    (occurs : occursIn pattern text = true) : occursIn pattern (other ++ text) = true :=
  occursIn_trans occurs (occursIn_iff.mpr ⟨other, "", by simp⟩)

theorem occursIn_append_right {pattern text : String} (other : String)
    (occurs : occursIn pattern text = true) : occursIn pattern (text ++ other) = true :=
  occursIn_trans occurs (occursIn_iff.mpr ⟨"", other, by simp⟩)

/-- Patterns of which none begins another one stand at different places of a text. -/
theorem card_le_of_occurs {text : List Char} {patterns : Finset (List Char)}
    (each : ∀ pattern ∈ patterns, occurs pattern text = true)
    (apart : ∀ first ∈ patterns, ∀ second ∈ patterns, first <+: second → first = second) :
    patterns.card ≤ text.length + 1 := by
  have located : ∀ pattern ∈ patterns,
      ∃ place, place ∈ Finset.range (text.length + 1) ∧ pattern <+: text.drop place := by
    intro pattern member
    obtain ⟨before, after, parts⟩ := (occurs_iff pattern text).mp (each pattern member)
    refine ⟨before.length, ?_, after, by simp [parts]⟩
    have lengths := congrArg List.length parts
    simp only [List.length_append] at lengths
    rw [Finset.mem_range]
    omega
  choose! place inText leads using located
  have different : Set.InjOn place patterns := by
    intro first isFirst second isSecond same
    have second_leads := leads second isSecond
    rw [← same] at second_leads
    rcases List.prefix_or_prefix_of_prefix (leads first isFirst) second_leads with begins | begins
    · exact apart first isFirst second isSecond begins
    · exact (apart second isSecond first isFirst begins).symm
  calc
    patterns.card ≤ (Finset.range (text.length + 1)).card :=
      Finset.card_le_card_of_injOn place inText different
    _ = text.length + 1 := Finset.card_range _

end Text

namespace Alias

theorem candidate_injective (seed : String) : Function.Injective (candidate seed) := by
  intro first second same
  cases first with
  | zero =>
      cases second with
      | zero => rfl
      | succ index =>
          have digits : Text.numeral index = [] := by
            simpa [candidate] using congrArg String.toList same
          exact absurd digits (Text.numeral_ne_nil index)
  | succ earlier =>
      cases second with
      | zero =>
          have digits : Text.numeral earlier = [] := by
            simpa [candidate] using congrArg String.toList same
          exact absurd digits (Text.numeral_ne_nil earlier)
      | succ later =>
          have digits : Text.numeral earlier = Text.numeral later := by
            simpa [candidate] using congrArg String.toList same
          rw [Text.numeral_injective digits]

/-- The search ends at a free candidate, or all candidates that it tried stand in the text. -/
theorem firstFree_free_or_taken (seed text : String) (tries index : Nat) :
    Text.occursIn (firstFree seed text tries index) text = false ∨
      ∀ tried, index ≤ tried → tried < index + tries →
        Text.occursIn (candidate seed tried) text = true := by
  fun_induction firstFree seed text tries index with
  | case1 index => exact Or.inr fun tried from_index before_end => by omega
  | case2 tries index taken ih =>
      refine ih.imp_right fun others tried from_index before_end => ?_
      by_cases first : tried = index
      · rw [first]
        exact taken
      · exact others tried (by omega) (by omega)
  | case3 tries index free => exact Or.inl (by simpa using free)

/-- When so many candidates in turn stand in a text, it is hardly shorter than they are many.  The
numbers of the last nine tenths of them have numerals of which none begins another one. -/
theorem rounds_le_of_taken {seed text : String} {rounds : Nat}
    (taken : ∀ index < rounds, Text.occursIn (candidate seed index) text = true) :
    9 * rounds ≤ 10 * text.length + 28 := by
  let numbers := Finset.Ico ((rounds - 1 + 9) / 10) (rounds - 1)
  let patterns := numbers.image fun number => (candidate seed (number + 1)).toList
  have different : Function.Injective fun number => (candidate seed (number + 1)).toList :=
    fun _ _ same => Nat.succ.inj (candidate_injective seed (String.toList_injective same))
  have known : patterns.card ≤ text.toList.length + 1 := by
    apply Text.card_le_of_occurs
    · intro pattern member
      obtain ⟨number, inside, rfl⟩ := Finset.mem_image.mp member
      have := Finset.mem_Ico.mp inside
      exact taken (number + 1) (by omega)
    · intro first isFirst second isSecond leads
      obtain ⟨earlier, inside, rfl⟩ := Finset.mem_image.mp isFirst
      obtain ⟨later, below, rfl⟩ := Finset.mem_image.mp isSecond
      simp only [candidate, String.toList_append, String.toList_ofList,
        List.prefix_append_right_inj] at leads
      obtain ⟨places, rfl⟩ := Text.exists_eq_div_of_prefix leads
      cases places with
      | zero => simp
      | succ places =>
          have shorter : later / 10 ^ (places + 1) ≤ later / 10 := by
            rw [Nat.pow_succ', ← Nat.div_div_eq_div_mul]
            exact Nat.div_le_self _ _
          have := Finset.mem_Ico.mp inside
          have := Finset.mem_Ico.mp below
          omega
  rw [Finset.card_image_of_injective _ different, Nat.card_Ico, String.length_toList] at known
  omega

/-- The allocated name does not stand in the text. -/
theorem occursIn_allocate (seed text : String) :
    Text.occursIn (allocate seed text) text = false := by
  refine (firstFree_free_or_taken seed text (tries text) 0).resolve_right fun taken => ?_
  have known := rounds_le_of_taken fun index tried =>
    taken index (Nat.zero_le _) (by simpa using tried)
  rw [tries] at known
  nlinarith

/-- An allocated name is its seed, perhaps with a number behind it. -/
theorem allocate_eq_append (seed text : String) :
    ∃ ending, allocate seed text = seed ++ ending := by
  obtain ⟨last, same, -⟩ := firstFree_eq_candidate seed text (tries text) 0
  rw [allocate, same]
  cases last with
  | zero => exact ⟨"", by simp [candidate]⟩
  | succ index => exact ⟨_, rfl⟩

/-! ## Names one after another -/

theorem claim_append (text : String) (names others : List String) :
    claim text (names ++ others) = claim (claim text names) others :=
  List.foldl_append

theorem claim_eq_append (text : String) (names : List String) :
    ∃ ending, claim text names = text ++ ending := by
  induction names generalizing text with
  | nil => exact ⟨"", by simp [claim]⟩
  | cons name names ih =>
      obtain ⟨ending, same⟩ := ih (text ++ " " ++ name)
      refine ⟨" " ++ name ++ ending, ?_⟩
      rw [claim, List.foldl_cons, ← claim, same]
      simp [String.append_assoc]

theorem occursIn_claim_of_mem {names : List String} {name : String} (member : name ∈ names)
    (text : String) : Text.occursIn name (claim text names) = true := by
  obtain ⟨before, after, rfl⟩ := List.append_of_mem member
  obtain ⟨ending, same⟩ := claim_eq_append (claim text before ++ " " ++ name) after
  rw [claim_append, claim, List.foldl_cons, ← claim, same]
  exact Text.occursIn_append_right _ (Text.occursIn_append_left _ (Text.occursIn_self name))

/-- Each of the names stands neither in the text nor among the names before it. -/
def FreeInTurn (text : String) : List String → Prop
  | [] => True
  | name :: names => Text.occursIn name text = false ∧ FreeInTurn (claim text [name]) names

namespace FreeInTurn

theorem append {text : String} {names others : List String} (first : FreeInTurn text names)
    (second : FreeInTurn (claim text names) others) : FreeInTurn text (names ++ others) := by
  induction names generalizing text with
  | nil => exact second
  | cons name names ih => exact ⟨first.1, ih first.2 second⟩

theorem free {text : String} {names : List String} (inTurn : FreeInTurn text names) :
    ∀ name ∈ names, Text.occursIn name text = false := by
  induction names generalizing text with
  | nil => simp
  | cons first names ih =>
      rw [List.forall_mem_cons]
      refine ⟨inTurn.1, fun name member => Bool.eq_false_iff.mpr fun occurs => ?_⟩
      obtain ⟨ending, same⟩ := claim_eq_append text [first]
      have claimed := ih inTurn.2 name member
      rw [same, Text.occursIn_append_right ending occurs] at claimed
      cases claimed

theorem nodup {text : String} {names : List String} (inTurn : FreeInTurn text names) :
    names.Nodup := by
  induction names generalizing text with
  | nil => exact List.nodup_nil
  | cons first names ih =>
      refine List.nodup_cons.mpr ⟨fun again => ?_, ih inTurn.2⟩
      have claimed := inTurn.2.free first again
      rw [occursIn_claim_of_mem (List.mem_singleton_self first)] at claimed
      cases claimed

end FreeInTurn

theorem freeInTurn_columns (text : String) (names : List String) :
    FreeInTurn text (columns text names) := by
  induction names generalizing text with
  | nil => trivial
  | cons name names ih => exact ⟨occursIn_allocate _ text, ih _⟩

theorem columns_startWith (text : String) (names : List String) :
    List.Forall₂ (fun name column => ∃ ending, column = columnStart ++ name ++ ending) names
      (columns text names) := by
  induction names generalizing text with
  | nil => exact .nil
  | cons name names ih => exact .cons (allocate_eq_append _ text) (ih _)

end Alias

end EntitySearch
