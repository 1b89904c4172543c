import EntitySearch.Proofs.Decimal.Rounding
import EntitySearch.Proofs.Json.Literals
import EntitySearch.Request

/-!
# Integers in requests

The values of a filter and of parameters are read by one reader.  An integer that 64 bits with a
sign hold is read as it is.  If 64 bits hold its magnitude it becomes the nearest double.  Of any
other one the first digits are rounded, times a rounded power of ten, and rounded once more, which
leaves an error of at most a part `2 ^ -51`.  So two different integers become one value only if
neither has 64 bits with a sign and they are near to each other.
-/

namespace EntitySearch

namespace Json.Number

/-! ## What is read of an integer -/

/-- An integer of 64 bits with a sign. -/
def FitsInt64 (integer : Int) : Prop := -2 ^ 63 ≤ integer ∧ integer < 2 ^ 63

instance (integer : Int) : Decidable (FitsInt64 integer) := inferInstanceAs (Decidable (_ ∧ _))

theorem ofInteger_of_least {integer : Int} (least : -2 ^ 63 ≤ integer) :
    ofInteger (integer < 0) integer.natAbs = .integer integer := by
  by_cases negative : integer < 0
  · have no_zero : ¬ (integer.natAbs = 0 ∨ Nat.pow 2 63 < integer.natAbs) := by
      rw [show Nat.pow 2 63 = 2 ^ 63 from rfl]
      omega
    rw [decide_eq_true negative, ofInteger, if_neg (by decide), if_neg no_zero,
      show (-integer.natAbs : Int) = integer by omega]
  · rw [decide_eq_false negative, ofInteger, if_pos (by decide), Int.natAbs_of_nonneg (by omega)]

theorem ofInteger_of_less {integer : Int} (less : integer < -2 ^ 63) :
    ofInteger (integer < 0) integer.natAbs = .double (Double.ofNat integer.natAbs).neg := by
  have large : Nat.pow 2 63 < integer.natAbs := by
    rw [show Nat.pow 2 63 = 2 ^ 63 from rfl]
    omega
  rw [decide_eq_true (by omega), ofInteger, if_neg (by decide), if_pos (Or.inr large)]

/-- Digits that 64 bits hold are read to the last one. -/
theorem ofWritten_of_natAbs_lt {integer : Int} (small : integer.natAbs < 2 ^ 64) :
    ofWritten integer = .ok (ofInteger (integer < 0) integer.natAbs) := by
  have collects := collects_numeral integer.natAbs
  have whole := collects.unread_eq_zero_iff.mpr small
  rw [whole] at collects
  rw [ofWritten]
  simp only [whole, collects.eq_total, if_true]

theorem ofWritten_of_fitsInt64 {integer : Int} (fits : FitsInt64 integer) :
    ofWritten integer = .ok (.integer integer) := by
  obtain ⟨least, greatest⟩ := fits
  rw [ofWritten_of_natAbs_lt (by omega), ofInteger_of_least least]

/-! ## The rounded factors -/

/-- Natural numbers far below the greatest double are rounded to doubles. -/
theorem rounds_ofRatio_one {number : Nat} (positive : 0 < number)
    (small : 4 * number ≤ 3 * 2 ^ 1024) :
    (Double.ofRatio false number 1).Rounds false (1 / 2 ^ 53) number := by
  have small' : (4 * number : ℚ) ≤ 3 * 2 ^ 1024 := by exact_mod_cast small
  have bounded : (number / (1 : ℕ) : ℚ) ≤ 3 / 4 * 2 ^ 1024 := by
    rw [Nat.cast_one, div_one]
    generalize (2 ^ 1024 : ℚ) = limit at *
    linarith
  have rounds := Double.rounds_ofRatio false Nat.one_pos positive bounded
  rwa [Nat.cast_one, div_one] at rounds

theorem rounds_ofNat {number : Nat} (positive : 0 < number) (small : number < 2 ^ 64) :
    (Double.ofNat number).Rounds false (1 / 2 ^ 53) number := by
  have enough : 4 * 2 ^ 64 ≤ 3 * 2 ^ 1024 := by decide +kernel
  exact rounds_ofRatio_one positive ((Nat.mul_le_mul_left 4 small.le).trans enough)

theorem rounds_powerOfTen {exponent : Nat} (within : exponent ≤ 308) :
    (powerOfTen exponent).Rounds false (1 / 2 ^ 53) (10 ^ exponent) := by
  have length : (Decimal.mk 1 exponent).length = 1 := by
    show (Text.numeral 1).length = 1
    decide +kernel
  have same : powerOfTen exponent = Double.ofRatio false (10 ^ exponent) 1 := by
    rw [powerOfTen, Decimal.toDouble]
    simp only [length]
    rw [if_neg (by omega), if_neg (by omega)]
    simp [scaledRatio]
  have enough : 4 * 10 ^ 308 ≤ 3 * 2 ^ 1024 := by decide +kernel
  have less : 4 * 10 ^ exponent ≤ 4 * 10 ^ 308 :=
    Nat.mul_le_mul_left 4 (pow_le_pow_right₀ (by decide) within)
  have rounds := rounds_ofRatio_one (Nat.pow_pos (by decide : 0 < 10)) (less.trans enough)
  rw [same]
  exact_mod_cast rounds

/-! ## Digits left over -/

variable {total collected unread : Nat}

theorem Collects.least (collects : Collects total collected unread) (left : unread ≠ 0) :
    2 ^ 60 ≤ collected := by
  have full := collects.full left
  omega

theorem Collects.near (collects : Collects total collected unread) (left : unread ≠ 0) :
    Double.Near (1 / 2 ^ 60) (collected * 10 ^ unread) total := by
  have least : (2 ^ 60 : ℚ) ≤ collected := by exact_mod_cast collects.least left
  have lower : (collected * 10 ^ unread : ℚ) ≤ total := by exact_mod_cast collects.lower
  have upper : (total : ℚ) ≤ (collected + 1) * 10 ^ unread := by exact_mod_cast collects.upper.le
  have unit : (0 : ℚ) < 10 ^ unread := by positivity
  have unit_le : (2 ^ 60 * 10 ^ unread : ℚ) ≤ collected * 10 ^ unread := by gcongr
  constructor <;> linarith

/-- The product of the digits and their power of ten is the rounding of a ratio near to the
number. -/
theorem Collects.exists_product (collects : Collects total collected unread) (left : unread ≠ 0)
    (within : unread ≤ 308) :
    ∃ numerator denominator, 0 < denominator ∧ denominator ≤ numerator ∧
      (Double.ofNat collected).mul (powerOfTen unread) =
        Double.ofRatio false numerator denominator ∧
      Double.Near (5 / 2 ^ 54) (numerator / denominator) total := by
  have least := collects.least left
  obtain ⟨significand, exponent, canonical, digits_eq, digits_near⟩ :=
    rounds_ofNat (by omega) collects.fits
  obtain ⟨significand', exponent', canonical', power_eq, power_near⟩ := rounds_powerOfTen within
  obtain ⟨numerator, denominator, positive, product_eq, ratio⟩ :=
    Double.exists_mul_eq_ofRatio canonical canonical'
  have digits_pos : (0 : ℚ) < significand * 2 ^ exponent :=
    digits_near.pos (by norm_num) (by exact_mod_cast (by omega : 0 < collected))
  have power_pos : (0 : ℚ) < significand' * 2 ^ exponent' :=
    power_near.pos (by norm_num) (by positivity)
  have ratio_pos : (0 : ℚ) < numerator / denominator := ratio ▸ mul_pos digits_pos power_pos
  -- The power of ten is rounded, so are the digits, and the digits left over are missing.
  have near : Double.Near (5 / 2 ^ 54) (numerator / denominator) total := by
    have power_step := power_near.mul_left digits_pos.le
    have digits_step : Double.Near (1 / 2 ^ 53) (significand * 2 ^ exponent * 10 ^ unread)
        (collected * 10 ^ unread) := digits_near.mul_right (by positivity)
    rw [← ratio] at power_step
    have product_step := power_step.trans digits_step (by norm_num) (by norm_num) (by norm_num)
      ratio_pos.le
    exact (product_step.trans (collects.near left) (by norm_num) (by norm_num) (by norm_num)
      ratio_pos.le).mono ratio_pos.le (by norm_num)
  have whole : denominator ≤ numerator := by
    have large : 2 ^ 60 ≤ total :=
      least.trans ((Nat.le_mul_of_pos_right _ (Nat.pow_pos (by decide))).trans collects.lower)
    have large' : (2 ^ 60 : ℚ) ≤ total := by exact_mod_cast large
    have one_le : (1 : ℚ) ≤ numerator / denominator := by linarith [near.2]
    rw [one_le_div (by exact_mod_cast positive)] at one_le
    exact_mod_cast one_le
  exact ⟨numerator, denominator, positive, whole,
    by rw [digits_eq, power_eq, product_eq]; rfl, near⟩

/-- A power of ten beyond the greatest double is beyond it with any digits. -/
theorem scale?_eq (number : Double) (exponent : Nat) :
    scale? number exponent =
      if exponent ≤ 308 then
        if (number.mul (powerOfTen exponent)).isInfinite then none
        else some (number.mul (powerOfTen exponent))
      else if number.isZero then some number
      else none := by
  rw [scale?]
  simp

/-- A number with digits left over becomes a double near to it, unless it is beyond the greatest
one. -/
theorem Collects.ofParts (collects : Collects total collected unread) (left : unread ≠ 0)
    (negative : Bool) :
    (∃ double, Number.ofParts negative collected unread = .ok (.double double) ∧
      double.Rounds negative (1 / 2 ^ 51) total) ∨
    (2 ^ 1023 ≤ total ∧ Number.ofParts negative collected unread = .error .malformed) := by
  have least := collects.least left
  rw [Number.ofParts, scale?_eq]
  by_cases within : unread ≤ 308
  · obtain ⟨numerator, denominator, positive, whole, product, near⟩ :=
      collects.exists_product left within
    rw [if_pos within, product]
    rcases Double.infinite_or_rounds_ofRatio false positive whole with infinite | rounds
    · refine .inr ⟨?_, by rw [infinite]; rfl⟩
      by_contra small
      have small' : (total : ℚ) < 2 ^ 1023 := by exact_mod_cast not_le.mp small
      have bounded : (numerator / denominator : ℚ) ≤ 3 / 4 * 2 ^ 1024 := by
        rw [pow_succ]
        generalize (2 ^ 1023 : ℚ) = limit at *
        linarith [near.1]
      have finite := (Double.rounds_ofRatio false positive whole bounded).not_isInfinite
      rw [infinite] at finite
      cases finite
    · refine .inl ⟨_, by rw [rounds.not_isInfinite]; rfl, Double.Rounds.signed ?_ negative⟩
      exact (rounds.trans near (by norm_num) (by norm_num) (by norm_num)).mono (by norm_num)
  · have not_zero : (Double.ofNat collected).isZero = false :=
      (rounds_ofNat (by omega) collects.fits).not_isZero (by norm_num)
        (by exact_mod_cast (by omega : 0 < collected))
    refine .inr ⟨?_, by rw [if_neg within, not_zero]; rfl⟩
    have limit : 2 ^ 1023 ≤ 10 ^ 309 := by decide +kernel
    calc
      2 ^ 1023 ≤ 1 * 10 ^ unread := by
        rw [one_mul]
        exact limit.trans (pow_le_pow_right₀ (by decide) (by omega))
      _ ≤ collected * 10 ^ unread := Nat.mul_le_mul_right _ (by omega)
      _ ≤ total := collects.lower

end Json.Number

namespace Value

open Json Json.Number

/-! ## Values of integers -/

/-- The value stands for the integer: as the integer that it is, as the nearest double, or as a
double that has its sign and its magnitude up to a part `2 ^ -51`. -/
inductive StandsFor : Value → Int → Prop
  /-- An integer of 64 bits with a sign. -/
  | same {integer : Int} (fits : FitsInt64 integer) :
      StandsFor (.integer (Int64.ofInt integer)) integer
  /-- Any other integer with a magnitude of 64 bits. -/
  | nearest {integer : Int} (beyond : ¬ FitsInt64 integer) (small : integer.natAbs < 2 ^ 64) :
      StandsFor (.double (Double.ofInt integer)) integer
  /-- Any other integer. -/
  | near {integer : Int} {double : Double} (large : 2 ^ 64 ≤ integer.natAbs)
      (rounds : double.Rounds (integer < 0) (1 / 2 ^ 51) integer.natAbs) :
      StandsFor (.double double) integer

theorem fitsInt64_iff {integer : Int} :
    FitsInt64 integer ↔
      Int64.minValue.toInt ≤ integer ∧ integer ≤ Int64.maxValue.toInt := by
  rw [show Int64.minValue.toInt = -2 ^ 63 from rfl, show Int64.maxValue.toInt = 2 ^ 63 - 1 from rfl,
    FitsInt64]
  omega

theorem ofNumber_integer_of_fitsInt64 {integer : Int} (fits : FitsInt64 integer) :
    ofNumber (.integer integer) = .integer (Int64.ofInt integer) := by
  rw [ofNumber, if_pos (fitsInt64_iff.mp fits)]

theorem ofNumber_integer_of_not_fitsInt64 {integer : Int} (beyond : ¬ FitsInt64 integer) :
    ofNumber (.integer integer) = .double (Double.ofInt integer) := by
  rw [ofNumber, if_neg (mt fitsInt64_iff.mpr beyond)]

theorem ofInt_of_neg {integer : Int} (negative : integer < 0) :
    Double.ofInt integer = (Double.ofNat integer.natAbs).neg := by
  rw [Double.ofInt, decide_eq_true negative, Double.ofNat, Double.neg_ofRatio]

theorem rounds_ofInt {integer : Int} (present : integer ≠ 0) (small : integer.natAbs < 2 ^ 64) :
    (Double.ofInt integer).Rounds (integer < 0) (1 / 2 ^ 53) integer.natAbs := by
  have rounds := rounds_ofNat (Int.natAbs_pos.mpr present) small
  by_cases negative : integer < 0
  · rw [ofInt_of_neg negative, decide_eq_true negative]
    exact rounds.neg
  · rw [Double.ofInt, decide_eq_false negative]
    exact rounds

theorem ofNumber_ofInteger {integer : Int} (beyond : ¬ FitsInt64 integer) :
    ofNumber (ofInteger (integer < 0) integer.natAbs) = .double (Double.ofInt integer) := by
  rcases lt_or_ge integer (-2 ^ 63) with less | least
  · rw [ofInteger_of_less less, ofInt_of_neg (by omega)]
    rfl
  · rw [ofInteger_of_least least, ofNumber_integer_of_not_fitsInt64 beyond]

/-- A written integer is read as a value that stands for it, unless it is beyond the greatest
double. -/
theorem standsFor_ofWritten (integer : Int) :
    (∃ number, ofWritten integer = .ok number ∧ StandsFor (ofNumber number) integer) ∨
      (2 ^ 1023 ≤ integer.natAbs ∧ ofWritten integer = .error .malformed) := by
  by_cases fits : FitsInt64 integer
  · refine .inl ⟨_, ofWritten_of_fitsInt64 fits, ?_⟩
    rw [ofNumber_integer_of_fitsInt64 fits]
    exact .same fits
  rcases lt_or_ge integer.natAbs (2 ^ 64) with small | large
  · refine .inl ⟨_, ofWritten_of_natAbs_lt small, ?_⟩
    rw [ofNumber_ofInteger fits]
    exact .nearest fits small
  have collects := collects_numeral integer.natAbs
  have left := mt collects.unread_eq_zero_iff.mp (not_lt.mpr large)
  rw [ofWritten]
  simp only [if_neg left]
  refine (collects.ofParts left (integer < 0)).imp_left ?_
  rintro ⟨double, read, rounds⟩
  exact ⟨_, read, .near large rounds⟩

theorem StandsFor.rounds {double : Double} {integer : Int}
    (stands : StandsFor (.double double) integer) :
    ¬ FitsInt64 integer ∧ double.Rounds (integer < 0) (1 / 2 ^ 51) integer.natAbs ∧
      (integer.natAbs < 2 ^ 64 → double = Double.ofInt integer) := by
  cases stands with
  | nearest beyond small =>
      have present : integer ≠ 0 := by
        rintro rfl
        exact beyond (by decide)
      exact ⟨beyond, (rounds_ofInt present small).mono (by norm_num), fun _ => rfl⟩
  | near large rounds =>
      refine ⟨fun fits => ?_, rounds, fun small => absurd small (not_lt.mpr large)⟩
      obtain ⟨least, greatest⟩ := fits
      omega

/-- Two integers that one double is near to are near to each other. -/
theorem natAbs_sub_mul_le {double : Double} {first second : Int}
    (rounds : double.Rounds (first < 0) (1 / 2 ^ 51) first.natAbs)
    (rounds' : double.Rounds (second < 0) (1 / 2 ^ 51) second.natAbs) :
    (first - second).natAbs * 2 ^ 50 ≤ max first.natAbs second.natAbs := by
  obtain ⟨significand, exponent, canonical, rfl, near⟩ := rounds
  obtain ⟨significand', exponent', canonical', same, near'⟩ := rounds'
  obtain ⟨sign, rfl, rfl⟩ := Double.finite.inj same
  rw [decide_eq_decide] at sign
  have distance {less greater : Nat}
      (near : Double.Near (1 / 2 ^ 51) (significand * 2 ^ exponent) less)
      (near' : Double.Near (1 / 2 ^ 51) (significand * 2 ^ exponent) greater)
      (ordered : less ≤ greater) : (greater - less) * 2 ^ 50 ≤ greater := by
    have apart := near.sub_le near' (by norm_num) (by norm_num) (by positivity)
    have apart' : ((greater - less : ℕ) : ℚ) * 2 ^ 50 ≤ greater := by
      rw [Nat.cast_sub ordered]
      linarith
    exact_mod_cast apart'
  rcases Nat.le_total first.natAbs second.natAbs with ordered | ordered
  · rw [show (first - second).natAbs = second.natAbs - first.natAbs by omega]
    exact (distance near near' ordered).trans (le_max_right _ _)
  · rw [show (first - second).natAbs = first.natAbs - second.natAbs by omega]
    exact (distance near' near ordered).trans (le_max_left _ _)

theorem ofInt_injective {first second : Int} (fits : FitsInt64 first) (fits' : FitsInt64 second)
    (same : Int64.ofInt first = Int64.ofInt second) : first = second := by
  have numbers := congrArg Int64.toInt same
  rwa [Int64.toInt_ofInt_of_le fits.1 fits.2, Int64.toInt_ofInt_of_le fits'.1 fits'.2] at numbers

/-- Doubles need not tell the integers apart: neither has 64 bits with a sign, they differ by at
most a part `2 ^ -50` of the greater magnitude, and if 64 bits hold both magnitudes then the nearest
doubles are the same. -/
structure Confusable (first second : Int) : Prop where
  beyond : ¬ FitsInt64 first ∧ ¬ FitsInt64 second
  close : (first - second).natAbs * 2 ^ 50 ≤ max first.natAbs second.natAbs
  nearest : first.natAbs < 2 ^ 64 → second.natAbs < 2 ^ 64 →
    Double.ofInt first = Double.ofInt second

theorem confusable_of_standsFor_double {double : Double} {first second : Int}
    (stands : StandsFor (.double double) first) (stands' : StandsFor (.double double) second) :
    Confusable first second := by
  obtain ⟨beyond, rounds, nearest⟩ := stands.rounds
  obtain ⟨beyond', rounds', nearest'⟩ := stands'.rounds
  exact ⟨⟨beyond, beyond'⟩, natAbs_sub_mul_le rounds rounds', fun small small' =>
    (nearest small).symm.trans (nearest' small')⟩

/-- Different integers that one value stands for are confusable. -/
theorem StandsFor.confusable {value : Value} {first second : Int} (stands : StandsFor value first)
    (stands' : StandsFor value second) (different : first ≠ second) :
    Confusable first second := by
  cases stands with
  | same fits =>
      generalize spelled : Value.integer (Int64.ofInt first) = value at stands'
      cases stands' with
      | same fits' =>
          exact absurd (ofInt_injective fits fits' (Value.integer.inj spelled)) different
      | nearest | near => cases spelled
  | nearest beyond small =>
      exact confusable_of_standsFor_double (.nearest beyond small) stands'
  | near large rounds => exact confusable_of_standsFor_double (.near large rounds) stands'

/-! ## Integers where values are wanted -/

/-- A place in a text where a value is wanted. -/
structure Place where
  /-- How many more arrays and objects may be opened. -/
  levels : Nat
  /-- What stands before the value. -/
  front : List Char
  blank : Reader.IsBlank front
  /-- What stands behind the value. -/
  behind : List Char
  ends : Number.Ends behind

/-- Reads the value if it is an integer, written in decimal digits. -/
def Place.read (place : Place) (integer : Int) : Except ReadError (Value × List Char) :=
  Value.read place.levels (place.front ++ (Text.signedNumeral integer ++ place.behind))

theorem Place.read_eq (place : Place) (integer : Int) :
    place.read integer =
      (ofWritten integer).map fun number => (ofNumber number, place.behind) := by
  rw [Place.read, read_append place.blank, read_signedNumeral integer place.ends]

theorem Place.standsFor_of_read (place : Place) {integer : Int} {value : Value}
    {rest : List Char} (read : place.read integer = .ok (value, rest)) :
    value.StandsFor integer ∧ rest = place.behind := by
  rw [place.read_eq] at read
  rcases standsFor_ofWritten integer with ⟨number, written, stands⟩ | ⟨-, refused⟩
  · rw [written] at read
    cases read
    exact ⟨stands, rfl⟩
  · rw [refused] at read
    cases read

theorem Place.exists_read (place : Place) {integer : Int} (small : integer.natAbs < 2 ^ 1023) :
    ∃ value, place.read integer = .ok (value, place.behind) := by
  rw [place.read_eq]
  rcases standsFor_ofWritten integer with ⟨number, written, -⟩ | ⟨large, -⟩
  · exact ⟨_, by rw [written]; rfl⟩
  · exact absurd small (not_lt.mpr large)

/-- Two different integers, wherever they stand, are read as different values unless they are
confusable.  An integer of 64 bits with a sign is read as it is, and what any other one is read as
stands for it. -/
theorem read_integers_apart {first second : Int} (different : first ≠ second)
    (place other : Place) :
    (FitsInt64 first → place.read first = .ok (.integer (Int64.ofInt first), place.behind)) ∧
      (first.natAbs < 2 ^ 1023 → ∃ value, place.read first = .ok (value, place.behind)) ∧
      (∀ value rest, place.read first = .ok (value, rest) → value.StandsFor first) ∧
      ∀ value rest otherRest, place.read first = .ok (value, rest) →
        other.read second = .ok (value, otherRest) → Confusable first second := by
  refine ⟨fun fits => ?_, place.exists_read, fun value rest read =>
    (place.standsFor_of_read read).1, fun value rest otherRest read read' => ?_⟩
  · rw [place.read_eq, ofWritten_of_fitsInt64 fits, ← ofNumber_integer_of_fitsInt64 fits]
    rfl
  · exact (place.standsFor_of_read read).1.confusable (other.standsFor_of_read read').1 different

/-- The greatest integer of 64 bits with a sign and the next one are different values among the
values of a filter. -/
theorem read_integers_apart_greatestInt64 :
    ∃ place : Place, ∃ value, place.read 9223372036854775808 = .ok (value, place.behind) ∧
      value.StandsFor 9223372036854775808 ∧
      place.read 9223372036854775807 ≠ .ok (value, place.behind) := by
  have ends : Number.Ends [','] := by
    rintro _ ⟨⟩
    decide
  let place : Place :=
    ⟨Reader.maxDepth, [' '], List.forall_mem_singleton.mpr (by decide), [','], ends⟩
  obtain ⟨-, found, stands, apart⟩ := read_integers_apart
    (by decide : (9223372036854775808 : Int) ≠ 9223372036854775807) place place
  obtain ⟨value, read⟩ := found (by decide +kernel)
  refine ⟨place, value, read, stands value _ read, fun same => ?_⟩
  exact (apart value _ _ read same).beyond.2 (by decide)

/-- Two neighbours that 64 bits with a sign do not hold are one value of a filter. -/
theorem read_neighbours_beyond_int64 :
    Reader.run RequestedFilter.record.read
        "\x7b\"field\":\"id\",\"values\":[9223372036854775808,9223372036854775809]\x7d" =
      .ok { field := "id"
            values := [.double (.finite false 4503599627370496 11 (by decide)),
              .double (.finite false 4503599627370496 11 (by decide))] } := by
  decide +kernel

end Value

end EntitySearch
