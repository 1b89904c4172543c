import EntitySearch.Proofs.FreeNames

/-!
# The search for a free name

Candidates are tried one after another until one stands nowhere in the text, and their numbers are
counted in 64 bits.  The search ends at the least free candidate after a number of rounds that is
linear in the length of the text.  A text in memory has fewer than `2 ^ 63` bytes, and in all of
these the counter ends before its range does.
-/

namespace EntitySearch

/-- Every character has at least one byte. -/
theorem Text.length_le_utf8ByteSize (text : String) : text.length ≤ text.utf8ByteSize := by
  have each (chars : List Char) : chars.length ≤ (String.ofList chars).utf8ByteSize := by
    induction chars with
    | nil => exact Nat.zero_le _
    | cons char chars induction =>
        have := char.utf8Size_pos
        rw [← List.singleton_append, String.ofList_append, String.utf8ByteSize_append,
          ← String.singleton_eq_ofList, String.utf8ByteSize_singleton, List.length_append,
          List.length_singleton]
        omega
  have whole := each text.toList
  rwa [String.length_toList, String.ofList_toList] at whole

namespace Alias

/-- Where a search stands: the candidate that is tried next, and the number of the one behind it, in
a counter of 64 bits. -/
structure Probe where
  /-- The candidate. -/
  candidate : String
  /-- The number that the next candidate will have. -/
  counter : UInt64
  deriving DecidableEq, Repr

namespace Probe

/-- The search begins with the seed. -/
def start (seed : String) : Probe := ⟨seed, 0⟩

/-- One round: a candidate that stands in the text gives way to the next one, and a free one ends
the search.  The counter goes on at zero behind its greatest number. -/
def next? (seed text : String) (probe : Probe) : Option Probe :=
  if Text.occursIn probe.candidate text then
    some ⟨seed ++ String.ofList (Text.numeral probe.counter.toNat), probe.counter + 1⟩
  else none

/-- Exactly so many rounds, if the search does not end before. -/
def run? (seed text : String) : Nat → Probe → Option Probe
  | 0, probe => some probe
  | rounds + 1, probe => (run? seed text rounds probe).bind (next? seed text)

/-- While the counter has room, the rounds go through the candidates in their order. -/
theorem run?_start {seed text : String} {rounds : Nat}
    (taken : ∀ index < rounds, Text.occursIn (Alias.candidate seed index) text = true)
    (fits : rounds < UInt64.size) :
    run? seed text rounds (start seed) =
      some ⟨Alias.candidate seed rounds, UInt64.ofNat rounds⟩ := by
  induction rounds with
  | zero => rfl
  | succ rounds earlier =>
      rw [run?, earlier (fun index before => taken index (by omega)) (by omega), Option.bind_some,
        next?, if_pos (taken rounds (by omega)), UInt64.toNat_ofNat_of_lt' (by omega),
        UInt64.ofNat_add]
      rfl

end Probe

/-- The first free candidate: it does not stand in the text, and all those before it do. -/
structure IsLeastFree (seed text : String) (index : Nat) : Prop where
  free : Text.occursIn (candidate seed index) text = false
  taken : ∀ earlier < index, Text.occursIn (candidate seed earlier) text = true

theorem IsLeastFree.unique {seed text : String} {first second : Nat}
    (one : IsLeastFree seed text first) (other : IsLeastFree seed text second) :
    first = second := by
  have not_before {earlier later : Nat} (free : Text.occursIn (candidate seed earlier) text = false)
      (least : IsLeastFree seed text later) : ¬ earlier < later := fun before => by
    rw [least.taken earlier before] at free
    cases free
  have := not_before one.free other
  have := not_before other.free one
  omega

/-- A search of so many rounds: before every round, and at the end, the candidate of that number is
tried and the counter has that number, and after the last round the search is over. -/
structure SearchEnds (seed text : String) (rounds : Nat) : Prop where
  counts : ∀ round ≤ rounds, ∃ probe, Probe.run? seed text round (.start seed) = some probe ∧
    probe.candidate = candidate seed round ∧ probe.counter.toNat = round
  ends : Probe.run? seed text (rounds + 1) (.start seed) = none

theorem IsLeastFree.searchEnds {seed text : String} {rounds : Nat}
    (least : IsLeastFree seed text rounds) (fits : rounds < UInt64.size) :
    SearchEnds seed text rounds where
  counts := by
    intro round within
    refine ⟨_, Probe.run?_start (fun index before => least.taken index (by omega)) (by omega), rfl,
      UInt64.toNat_ofNat_of_lt' (by omega)⟩
  ends := by
    rw [Probe.run?, Probe.run?_start least.taken fits, Option.bind_some, Probe.next?, least.free]
    rfl

/-- The allocated name is the first candidate that does not stand in the text.  In a text of fewer
than `2 ^ 63` bytes the search ends there, and its counter has not started again. -/
theorem allocate_leastFree (seed text : String) :
    ∃ rounds, IsLeastFree seed text rounds ∧ allocate seed text = candidate seed rounds ∧
      9 * rounds ≤ 10 * text.length + 28 ∧
      (text.utf8ByteSize < 2 ^ 63 → rounds < 2 ^ 64 ∧ SearchEnds seed text rounds) := by
  obtain ⟨rounds, found, earlier⟩ := firstFree_eq_candidate seed text (tries text) 0
  have free : Text.occursIn (candidate seed rounds) text = false := by
    rw [← found]
    exact occursIn_allocate seed text
  have least : IsLeastFree seed text rounds := ⟨free, fun index => earlier index (Nat.zero_le _)⟩
  have linear := rounds_le_of_taken least.taken
  refine ⟨rounds, least, found, linear, fun short => ?_⟩
  have length := Text.length_le_utf8ByteSize text
  have fits : rounds < UInt64.size := by
    rw [UInt64.size]
    omega
  exact ⟨fits, least.searchEnds fits⟩

/-- The empty seed stands in every text, and its candidates are numbers, of which those with one
digit stand in longer ones. -/
theorem allocate_leastFree_digits :
    "0, 12, 3".utf8ByteSize < 2 ^ 63 ∧ allocate "" "0, 12, 3" = "4" ∧
      SearchEnds "" "0, 12, 3" 5 := by
  have short : "0, 12, 3".utf8ByteSize < 2 ^ 63 := by decide
  obtain ⟨rounds, least, allocated, -, ends⟩ := allocate_leastFree "" "0, 12, 3"
  have fifth : IsLeastFree "" "0, 12, 3" 5 := ⟨by decide +kernel, by decide +kernel⟩
  obtain rfl := least.unique fifth
  exact ⟨short, allocated.trans (by decide +kernel), (ends short).2⟩

end Alias

end EntitySearch
