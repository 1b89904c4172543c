import EntitySearch.Decimal.Double
import Mathlib.Algebra.Order.Field.Power
import Mathlib.Data.Nat.Log
import Mathlib.Data.Rat.Cast.Order
import Mathlib.Tactic.FieldSimp
import Mathlib.Tactic.Linarith
import Mathlib.Tactic.NormNum
import Mathlib.Tactic.Positivity
import Mathlib.Tactic.Ring

/-!
# The error of rounding

A ratio of at least one that is rounded to a double differs from it by at most a part `2 ^ -53` of
the double: the significand is off by at most one half, and it fills its 53 bits.  Ratios up to
three quarters of `2 ^ 1024` are rounded to finite doubles.
-/

namespace EntitySearch

/-! ## Quotients -/

/-- The rounded quotient is off by at most one half. -/
theorem abs_roundedQuotient_sub_le {numerator denominator : Nat} (positive : 0 < denominator) :
    |(roundedQuotient numerator denominator : ℚ) - numerator / denominator| ≤ 1 / 2 := by
  have split := Nat.div_add_mod numerator denominator
  have small := Nat.mod_lt numerator positive
  have next := Nat.mul_add_one denominator (numerator / denominator)
  obtain ⟨upper, lower⟩ :
      2 * numerator ≤ denominator * (2 * roundedQuotient numerator denominator + 1) ∧
        denominator * (2 * roundedQuotient numerator denominator) ≤
          2 * numerator + denominator := by
    rw [roundedQuotient]
    split <;> rw [Nat.mul_add, Nat.mul_left_comm] <;> omega
  have positive' : (0 : ℚ) < denominator := by exact_mod_cast positive
  have upper' : (2 * numerator : ℚ) ≤
      denominator * (2 * roundedQuotient numerator denominator + 1) := by exact_mod_cast upper
  have lower' : (denominator * (2 * roundedQuotient numerator denominator) : ℚ) ≤
      2 * numerator + denominator := by exact_mod_cast lower
  have ratio : (numerator : ℚ) = denominator * (numerator / denominator) := by field_simp
  rw [abs_le]
  constructor <;> nlinarith

theorem scaledRatio_pos {base numerator denominator : Nat} (exponent : Int) (base_pos : 0 < base)
    (positive : 0 < denominator) : 0 < (scaledRatio base numerator denominator exponent).2 := by
  rw [scaledRatio]
  split
  · exact positive
  · exact Nat.mul_pos positive (Nat.pow_pos base_pos)

theorem scaledRatio_eq {base numerator denominator : Nat} (exponent : Int) (base_pos : 0 < base) :
    ((scaledRatio base numerator denominator exponent).1 : ℚ) /
        (scaledRatio base numerator denominator exponent).2 =
      numerator / denominator * (base : ℚ) ^ exponent := by
  have base_ne : (base : ℚ) ≠ 0 := by exact_mod_cast base_pos.ne'
  rw [scaledRatio]
  split
  next natural =>
    obtain ⟨power, rfl⟩ := Int.eq_ofNat_of_zero_le natural
    simp
    ring
  next negative =>
    obtain ⟨power, rfl⟩ : ∃ power : Nat, exponent = -power := ⟨(-exponent).toNat, by omega⟩
    simp
    field_simp

namespace Double

/-! ## Significands -/

variable {numerator denominator : Nat} {exponent : Int}

/-- The significand at an exponent is off by at most one half. -/
theorem abs_significandAt_sub_le (numerator : Nat) (positive : 0 < denominator) (exponent : Int) :
    |(significandAt numerator denominator exponent : ℚ) -
        numerator / denominator / 2 ^ exponent| ≤ 1 / 2 := by
  have error : |(significandAt numerator denominator exponent : ℚ) -
      (scaledRatio 2 numerator denominator (-exponent)).1 /
        (scaledRatio 2 numerator denominator (-exponent)).2| ≤ 1 / 2 :=
    abs_roundedQuotient_sub_le (scaledRatio_pos (-exponent) Nat.two_pos positive)
  rwa [scaledRatio_eq (-exponent) Nat.two_pos, zpow_neg, ← div_eq_mul_inv] at error

/-- A rounded ratio is infinite, or its significand is the one at its exponent. -/
theorem ofRatio_cases (negative : Bool) (present : numerator ≠ 0) :
    ofRatio negative numerator denominator = .infinite negative ∨
      ∃ exponent canonical, ofRatio negative numerator denominator =
        .finite negative (significandAt numerator denominator exponent) exponent canonical := by
  have run (exponents : List Int) :
      atFirstCanonical negative numerator denominator exponents = .infinite negative ∨
        ∃ exponent canonical, atFirstCanonical negative numerator denominator exponents =
          .finite negative (significandAt numerator denominator exponent) exponent canonical := by
    induction exponents with
    | nil => exact .inl rfl
    | cons tried exponents later =>
        rw [atFirstCanonical]
        split
        next canonical => exact .inr ⟨tried, canonical, rfl⟩
        next => exact later
  rw [ofRatio, if_neg present]
  exact run _

/-- The sign plays no part in rounding. -/
theorem neg_ofRatio (numerator denominator : Nat) :
    (ofRatio false numerator denominator).neg = ofRatio true numerator denominator := by
  have run (exponents : List Int) :
      (atFirstCanonical false numerator denominator exponents).neg =
        atFirstCanonical true numerator denominator exponents := by
    induction exponents with
    | nil => rfl
    | cons tried exponents later =>
        rw [atFirstCanonical, atFirstCanonical]
        split
        next => rfl
        next => exact later
  rw [ofRatio, ofRatio]
  split
  next => rfl
  next => exact run _

/-! ## The relative error -/

/-- The exact number is the approximation up to a part of the approximation. -/
def Near (part approximation exact : ℚ) : Prop :=
  approximation * (1 - part) ≤ exact ∧ exact ≤ approximation * (1 + part)

theorem Near.mono {part other approximation exact : ℚ} (near : Near part approximation exact)
    (nonneg : 0 ≤ approximation) (less : part ≤ other) : Near other approximation exact := by
  obtain ⟨lower, upper⟩ := near
  constructor <;> nlinarith

/-- An approximation of an approximation. -/
theorem Near.trans {part other approximation between exact : ℚ}
    (near : Near part approximation between) (further : Near other between exact)
    (part_nonneg : 0 ≤ part) (other_nonneg : 0 ≤ other) (other_le : other ≤ 1)
    (nonneg : 0 ≤ approximation) :
    Near ((1 + part) * (1 + other) - 1) approximation exact := by
  obtain ⟨lower, upper⟩ := near
  obtain ⟨lower', upper'⟩ := further
  have product := mul_nonneg nonneg (mul_nonneg part_nonneg other_nonneg)
  constructor
  · calc
      approximation * (1 - ((1 + part) * (1 + other) - 1)) ≤
          approximation * (1 - part) * (1 - other) := by linarith
      _ ≤ between * (1 - other) := by gcongr
      _ ≤ exact := lower'
  · calc
      exact ≤ between * (1 + other) := upper'
      _ ≤ approximation * (1 + part) * (1 + other) := by gcongr
      _ = approximation * (1 + ((1 + part) * (1 + other) - 1)) := by ring

theorem Near.pos {part approximation exact : ℚ} (near : Near part approximation exact)
    (part_nonneg : 0 ≤ part) (positive : 0 < exact) : 0 < approximation := by
  obtain ⟨-, upper⟩ := near
  by_contra not_positive
  have product := mul_nonneg part_nonneg (neg_nonneg.mpr (not_lt.mp not_positive))
  linarith

theorem Near.mul_right {part approximation exact factor : ℚ} (near : Near part approximation exact)
    (nonneg : 0 ≤ factor) : Near part (approximation * factor) (exact * factor) := by
  obtain ⟨lower, upper⟩ := near
  constructor <;> nlinarith

theorem Near.mul_left {part approximation exact factor : ℚ} (near : Near part approximation exact)
    (nonneg : 0 ≤ factor) : Near part (factor * approximation) (factor * exact) := by
  rw [mul_comm factor, mul_comm factor]
  exact near.mul_right nonneg

/-- Two numbers with one approximation are near to each other. -/
theorem Near.sub_le {part approximation less greater : ℚ} (near : Near part approximation less)
    (near' : Near part approximation greater) (part_nonneg : 0 ≤ part) (part_le : part ≤ 1 / 2)
    (nonneg : 0 ≤ approximation) : greater - less ≤ 2 * part * greater := by
  have shrunk : greater * (1 - 2 * part) ≤ less :=
    calc
      greater * (1 - 2 * part) ≤ approximation * (1 + part) * (1 - 2 * part) :=
        mul_le_mul_of_nonneg_right near'.2 (by linarith)
      _ = approximation * (1 - part) - 2 * (approximation * (part * part)) := by ring
      _ ≤ approximation * (1 - part) := by
        linarith [mul_nonneg nonneg (mul_nonneg part_nonneg part_nonneg)]
      _ ≤ less := near.1
  linarith

/-- A ratio of at least one is not so small that its significand would not fill its bits. -/
theorem near_significandAt (positive : 0 < denominator) (whole : denominator ≤ numerator)
    (canonical : CanonicalBinary (significandAt numerator denominator exponent) exponent) :
    Near (1 / 2 ^ 53) (significandAt numerator denominator exponent * 2 ^ exponent)
      (numerator / denominator) := by
  have unit_pos : (0 : ℚ) < 2 ^ exponent := by positivity
  have one_le : (1 : ℚ) ≤ numerator / denominator := by
    rw [one_le_div (by exact_mod_cast positive)]
    exact_mod_cast whole
  obtain ⟨lower, upper⟩ := abs_le.mp (abs_significandAt_sub_le numerator positive exponent)
  generalize significandAt numerator denominator exponent = significand at *
  have scaled : (numerator / denominator / 2 ^ exponent : ℚ) * 2 ^ exponent =
      numerator / denominator := by field_simp
  have filled : (2 ^ 52 : ℚ) ≤ significand := by
    obtain ⟨bits, -, -, filled | least⟩ := canonical
    · exact_mod_cast filled
    · have bits' : (significand : ℚ) < 2 ^ 53 := by exact_mod_cast bits
      have large : (2 ^ 54 : ℚ) ≤ numerator / denominator / 2 ^ exponent := by
        rw [least, zpow_neg, div_inv_eq_mul]
        calc
          (2 ^ 54 : ℚ) ≤ 2 ^ 1074 := pow_le_pow_right₀ one_le_two (by decide)
          _ ≤ numerator / denominator * 2 ^ 1074 := le_mul_of_one_le_left (by positivity) one_le
      linarith
  constructor <;> nlinarith

/-! ## Finite results -/

/-- Where the significand fills its bits and the exponent is not the right one, the significand has
one bit more than it may have. -/
theorem le_of_not_canonical (positive : 0 < denominator) (least : -1074 ≤ exponent)
    (bounded : (numerator / denominator : ℚ) ≤ 3 / 4 * 2 ^ 1024)
    (filled : (2 ^ 52 - 1 / 4 : ℚ) ≤ numerator / denominator / 2 ^ exponent)
    (refused : ¬ CanonicalBinary (significandAt numerator denominator exponent) exponent) :
    (2 ^ 53 - 1 / 2 : ℚ) ≤ numerator / denominator / 2 ^ exponent := by
  obtain ⟨lower, upper⟩ := abs_le.mp (abs_significandAt_sub_le numerator positive exponent)
  have low_enough : exponent ≤ 971 := by
    by_contra above
    have unit : (2 ^ 972 : ℚ) ≤ 2 ^ exponent := by
      rw [← zpow_natCast]
      exact zpow_le_zpow_right₀ one_le_two (by omega)
    have scaled : (numerator / denominator : ℚ) =
        numerator / denominator / 2 ^ exponent * 2 ^ exponent := by field_simp
    have whole : (2 ^ 1024 : ℚ) = 2 ^ 52 * 2 ^ 972 := by rw [← pow_add]
    have unit_pos : (0 : ℚ) < 2 ^ 972 := by positivity
    rw [scaled, whole] at bounded
    have product :=
      (mul_le_mul filled unit unit_pos.le (le_trans (by norm_num) filled)).trans bounded
    generalize (2 ^ 972 : ℚ) = big at unit_pos product
    linarith
  have at_least : 4503599627370496 ≤ significandAt numerator denominator exponent := by
    have more : ((4503599627370495 : ℕ) : ℚ) < significandAt numerator denominator exponent := by
      push_cast
      linarith
    exact_mod_cast more
  have too_long : 9007199254740992 ≤ significandAt numerator denominator exponent := by
    by_contra short
    exact refused ⟨by omega, least, low_enough, .inl at_least⟩
  have too_long' : (9007199254740992 : ℚ) ≤ significandAt numerator denominator exponent := by
    exact_mod_cast too_long
  linarith

theorem filled_succ (large : (2 ^ 53 - 1 / 2 : ℚ) ≤ numerator / denominator / 2 ^ exponent) :
    (2 ^ 52 - 1 / 4 : ℚ) ≤ numerator / denominator / 2 ^ (exponent + 1) := by
  rw [zpow_add_one₀ two_ne_zero, ← div_div]
  linarith

/-- The first exponent that is tried is the right one or one of its two predecessors. -/
theorem bounds_at_estimate (positive : 0 < denominator) (present : numerator ≠ 0) :
    (2 ^ 52 : ℚ) ≤
        numerator / denominator / 2 ^ ((numerator.log2 : Int) - denominator.log2 - 53) ∧
      (numerator / denominator / 2 ^ ((numerator.log2 : Int) - denominator.log2 - 53) : ℚ) <
        2 ^ 54 := by
  have lower : (2 : ℚ) ^ (numerator.log2 : Int) ≤ numerator := by
    exact_mod_cast Nat.log2_self_le present
  have upper : (numerator : ℚ) < 2 ^ ((numerator.log2 : Int) + 1) := by
    exact_mod_cast Nat.lt_log2_self
  have lower' : (2 : ℚ) ^ (denominator.log2 : Int) ≤ denominator := by
    exact_mod_cast Nat.log2_self_le positive.ne'
  have upper' : (denominator : ℚ) < 2 ^ ((denominator.log2 : Int) + 1) := by
    exact_mod_cast Nat.lt_log2_self
  have denominator_pos : (0 : ℚ) < denominator := by exact_mod_cast positive
  generalize (numerator.log2 : Int) = above at *
  generalize (denominator.log2 : Int) = below at *
  have unit_pos : (0 : ℚ) < 2 ^ (above - below - 53) := by positivity
  rw [le_div_iff₀ unit_pos, le_div_iff₀ denominator_pos, div_lt_iff₀ unit_pos,
    div_lt_iff₀ denominator_pos]
  constructor
  · calc
      (2 ^ 52 * 2 ^ (above - below - 53) * denominator : ℚ) ≤
          2 ^ 52 * 2 ^ (above - below - 53) * 2 ^ (below + 1) := by gcongr
      _ = 2 ^ above := by
        rw [← zpow_natCast, ← zpow_add₀ two_ne_zero, ← zpow_add₀ two_ne_zero]
        congr 1
        push_cast
        ring
      _ ≤ numerator := lower
  · calc
      (numerator : ℚ) < 2 ^ (above + 1) := upper
      _ = 2 ^ 54 * 2 ^ (above - below - 53) * 2 ^ below := by
        rw [← zpow_natCast, ← zpow_add₀ two_ne_zero, ← zpow_add₀ two_ne_zero]
        congr 1
        push_cast
        ring
      _ ≤ 2 ^ 54 * 2 ^ (above - below - 53) * denominator := by gcongr

/-- A ratio of at least one and at most three quarters of `2 ^ 1024` has a nearest double. -/
theorem exists_finite_ofRatio (negative : Bool) (positive : 0 < denominator)
    (whole : denominator ≤ numerator)
    (bounded : (numerator / denominator : ℚ) ≤ 3 / 4 * 2 ^ 1024) :
    ∃ exponent canonical, ofRatio negative numerator denominator =
      .finite negative (significandAt numerator denominator exponent) exponent canonical := by
  have present : numerator ≠ 0 := by omega
  obtain ⟨filled, bits⟩ := bounds_at_estimate positive present
  have ordered : denominator.log2 ≤ numerator.log2 := by
    rw [← Nat.lt_succ_iff, Nat.log2_lt positive.ne']
    exact whole.trans_lt Nat.lt_log2_self
  rw [ofRatio, if_neg present]
  dsimp only
  rw [max_eq_right (by omega)]
  generalize first_eq : (numerator.log2 : Int) - denominator.log2 - 53 = first at *
  by_cases at_first : CanonicalBinary (significandAt numerator denominator first) first
  · exact ⟨_, at_first, by rw [atFirstCanonical, dif_pos at_first]⟩
  have second_filled := filled_succ
    (le_of_not_canonical positive (by omega) bounded (by linarith) at_first)
  by_cases at_second :
      CanonicalBinary (significandAt numerator denominator (first + 1)) (first + 1)
  · exact ⟨_, at_second, by rw [atFirstCanonical, dif_neg at_first, atFirstCanonical,
      dif_pos at_second]⟩
  have third_filled := filled_succ
    (le_of_not_canonical positive (by omega) bounded second_filled at_second)
  rw [add_assoc, one_add_one_eq_two] at third_filled
  have at_third :
      CanonicalBinary (significandAt numerator denominator (first + 2)) (first + 2) := by
    by_contra refused
    have large := le_of_not_canonical positive (by omega) bounded third_filled refused
    rw [zpow_add₀ two_ne_zero, ← div_div] at large
    norm_num at large bits
    linarith
  exact ⟨_, at_third, by rw [atFirstCanonical, dif_neg at_first, atFirstCanonical,
    dif_neg at_second, atFirstCanonical, dif_pos at_third]⟩

/-! ## Rounded doubles -/

/-- The double is finite and has the sign, and the number is its magnitude up to a part of it. -/
def Rounds (double : Double) (negative : Bool) (part exact : ℚ) : Prop :=
  ∃ significand exponent canonical, double = .finite negative significand exponent canonical ∧
    Near part (significand * 2 ^ exponent) exact

theorem Rounds.neg {double : Double} {part exact : ℚ} (rounds : double.Rounds false part exact) :
    double.neg.Rounds true part exact := by
  obtain ⟨significand, exponent, canonical, rfl, near⟩ := rounds
  exact ⟨significand, exponent, canonical, rfl, near⟩

/-- The opposite of a double with a sign, or the double. -/
theorem Rounds.signed {double : Double} {part exact : ℚ} (rounds : double.Rounds false part exact)
    (negative : Bool) : (if negative then double.neg else double).Rounds negative part exact := by
  cases negative with
  | false => exact rounds
  | true => exact rounds.neg

theorem Rounds.trans {double : Double} {negative : Bool} {part other between exact : ℚ}
    (rounds : double.Rounds negative part between) (further : Near other between exact)
    (part_nonneg : 0 ≤ part) (other_nonneg : 0 ≤ other) (other_le : other ≤ 1) :
    double.Rounds negative ((1 + part) * (1 + other) - 1) exact := by
  obtain ⟨significand, exponent, canonical, rfl, near⟩ := rounds
  exact ⟨significand, exponent, canonical, rfl,
    near.trans further part_nonneg other_nonneg other_le (by positivity)⟩

theorem Rounds.mono {double : Double} {negative : Bool} {part other exact : ℚ}
    (rounds : double.Rounds negative part exact) (less : part ≤ other) :
    double.Rounds negative other exact := by
  obtain ⟨significand, exponent, canonical, rfl, near⟩ := rounds
  exact ⟨significand, exponent, canonical, rfl, near.mono (by positivity) less⟩

theorem Rounds.not_isInfinite {double : Double} {negative : Bool} {part exact : ℚ}
    (rounds : double.Rounds negative part exact) : double.isInfinite = false := by
  obtain ⟨significand, exponent, canonical, rfl, -⟩ := rounds
  rfl

/-- What is rounded to a zero is nothing. -/
theorem Rounds.not_isZero {double : Double} {negative : Bool} {part exact : ℚ}
    (rounds : double.Rounds negative part exact) (part_nonneg : 0 ≤ part) (positive : 0 < exact) :
    double.isZero = false := by
  obtain ⟨significand, exponent, canonical, rfl, near⟩ := rounds
  have magnitude_pos := near.pos part_nonneg positive
  rw [isZero, beq_eq_false_iff_ne]
  rintro rfl
  simp at magnitude_pos

theorem rounds_ofRatio (negative : Bool) (positive : 0 < denominator)
    (whole : denominator ≤ numerator)
    (bounded : (numerator / denominator : ℚ) ≤ 3 / 4 * 2 ^ 1024) :
    (ofRatio negative numerator denominator).Rounds negative (1 / 2 ^ 53)
      (numerator / denominator) := by
  obtain ⟨exponent, canonical, found⟩ := exists_finite_ofRatio negative positive whole bounded
  exact ⟨_, exponent, canonical, found, near_significandAt positive whole canonical⟩

/-- Beyond the greatest double there is only the infinite one. -/
theorem infinite_or_rounds_ofRatio (negative : Bool) (positive : 0 < denominator)
    (whole : denominator ≤ numerator) :
    ofRatio negative numerator denominator = .infinite negative ∨
      (ofRatio negative numerator denominator).Rounds negative (1 / 2 ^ 53)
        (numerator / denominator) := by
  refine (ofRatio_cases negative (by omega)).imp_right ?_
  rintro ⟨exponent, canonical, found⟩
  exact ⟨_, exponent, canonical, found, near_significandAt positive whole canonical⟩

/-- A product is the exact one, rounded. -/
theorem exists_mul_eq_ofRatio {left right : Bool} {leftSignificand rightSignificand : Nat}
    {leftExponent rightExponent : Int}
    (leftCanonical : CanonicalBinary leftSignificand leftExponent)
    (rightCanonical : CanonicalBinary rightSignificand rightExponent) :
    ∃ numerator denominator, 0 < denominator ∧
      (Double.finite left leftSignificand leftExponent leftCanonical).mul
          (.finite right rightSignificand rightExponent rightCanonical) =
        ofRatio (left != right) numerator denominator ∧
      (numerator / denominator : ℚ) =
        leftSignificand * 2 ^ leftExponent * (rightSignificand * 2 ^ rightExponent) := by
  refine ⟨(scaledRatio 2 (leftSignificand * rightSignificand) 1 (leftExponent + rightExponent)).1,
    _, scaledRatio_pos (leftExponent + rightExponent) Nat.two_pos Nat.one_pos, rfl, ?_⟩
  rw [scaledRatio_eq _ Nat.two_pos]
  push_cast
  rw [zpow_add₀ two_ne_zero]
  ring

end Double

end EntitySearch
