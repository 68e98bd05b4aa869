import CallPlan.Number.Binary64
import Mathlib.Algebra.Order.Field.Rat

/-!
# CallPlan.Proofs.Number.PowerOfTwo

Powers of two are double-precision numbers.

* Powers of two are what the exponent of a double-precision number counts: a quotient of two of them
  is rounded to the rank that begins a run of numbers with one exponent (`ofRatio_pow`).
* So it is kept as it is (`value?_ofRatio_pow`) as long as it is within the range of normal numbers.
-/

namespace CallPlan

theorem shifted_eq (base num den : Nat) (power : Int) :
    shifted base num den power = (num * base ^ power.toNat, den * base ^ (-power).toNat) := by
  cases power with
  | ofNat k =>
      have noFraction : (-(Int.ofNat k)).toNat = 0 := by simp
      rw [noFraction, Nat.pow_zero, Nat.mul_one]
      rfl
  | negSucc k =>
      rw [Int.toNat_negSucc, Nat.pow_zero, Nat.mul_one]
      rfl

namespace Binary64

/-- The quotient that a finite number stands for. -/
def value? (x : Binary64) : Option ℚ := x.toRatio?.map fun (num, den) => (num : ℚ) / den

theorem span_eq : span = 2 ^ 52 := rfl

theorem two_pow_mul (a b : Nat) : 2 ^ a * 2 ^ b = 2 ^ (a + b) := (Nat.pow_add 2 a b).symm

/-- The leading bit of a power of two is its only one. -/
theorem roundingExponent_pow {i k : Nat} (normal : k ≤ i + 1022) :
    roundingExponent (2 ^ i) (2 ^ k) = (i : Int) - k - 52 := by
  have even : (2 ^ i * 2 ^ ((k : Int) - i).toNat) = 2 ^ k * 2 ^ ((i : Int) - k).toNat := by
    rw [two_pow_mul, two_pow_mul]
    congr 1
    omega
  have up : -((i : Int) - k - 53 + 53) = k - i := by omega
  have down : -((k : Int) - i) = i - k := by omega
  unfold roundingExponent
  dsimp only
  rw [Nat.log2_two_pow, Nat.log2_two_pow, shifted_eq, up, down]
  dsimp only
  rw [even, if_neg (Nat.lt_irrefl _)]
  omega

theorem ofRatio_pow (negative : Bool) {i k : Nat} (normal : k ≤ i + 1022) :
    ofRatio negative (2 ^ i) (2 ^ k) = ofRank negative ((i + 1023 - k) * span) := by
  -- The division leaves no remainder, and so nothing is rounded.
  have scaled : (2 ^ i * 2 ^ (-((i : Int) - k - 52)).toNat)
      = 2 ^ 52 * (2 ^ k * 2 ^ ((i : Int) - k - 52).toNat) := by
    rw [two_pow_mul, two_pow_mul, two_pow_mul]
    congr 1
    omega
  have positive : 0 < 2 ^ k * 2 ^ ((i : Int) - k - 52).toNat := by
    rw [two_pow_mul]
    exact Nat.two_pow_pos _
  have nonzero : (decide (2 ^ i = 0) || decide (2 ^ k = 0)) = false := by simp
  have rank : ((i : Int) - k - 52 + 1074).toNat * span + 2 ^ 52 = (i + 1023 - k) * span := by
    rw [← span_eq, ← Nat.succ_mul]
    congr 1
    omega
  unfold ofRatio
  dsimp only
  rw [nonzero, roundingExponent_pow normal, shifted_eq, Int.neg_neg]
  dsimp only
  rw [scaled, Nat.mul_div_cancel _ positive, Nat.mul_mod_left, Nat.zero_mul, rank]
  have noCarry : (decide (0 > 2 ^ k * 2 ^ ((i : Int) - k - 52).toNat) ||
      decide (0 = 2 ^ k * 2 ^ ((i : Int) - k - 52).toNat) &&
        decide ((i + 1023 - k) * span % 2 = 1)) = false := by
    have unequal : ¬ 0 = 2 ^ k * 2 ^ ((i : Int) - k - 52).toNat := by omega
    simp only [gt_iff_lt, Nat.not_lt_zero, unequal, decide_false, Bool.false_and, Bool.or_false]
  simp only [noCarry, Bool.false_eq_true, if_false]

/-- The rank that begins the run of numbers with an exponent. -/
theorem magnitude_mul_span {m : Nat} (normal : 0 < m) :
    magnitude (m * span)
      = (2 ^ 52 * 2 ^ ((m : Int) - 1075).toNat, 2 ^ (1075 - (m : Int)).toNat) := by
  have spans : 0 < span := Nat.two_pow_pos 52
  have large : ¬ m * span < span := by
    have : span ≤ m * span := Nat.le_mul_of_pos_left span normal
    omega
  have mantissa_eq : mantissa (m * span) = 2 ^ 52 := by
    rw [mantissa, if_neg large, Nat.mul_mod_left, Nat.add_zero, span_eq]
  have exponent_eq : exponent (m * span) = (m : Int) - 1075 := by
    rw [exponent, Nat.mul_div_cancel _ spans, Nat.max_eq_left normal]
  have down : -((m : Int) - 1075) = 1075 - m := by omega
  rw [magnitude, mantissa_eq, exponent_eq, shifted_eq, down, Nat.one_mul]

theorem rank_lt {i k : Nat} (inside : i ≤ k + 1023) : (i + 1023 - k) * span < rankCount :=
  Nat.mul_lt_mul_of_pos_right (by omega) (Nat.two_pow_pos 52)

theorem isFinite_ofRatio_pow {negative : Bool} {i k : Nat} (normal : k ≤ i + 1022)
    (inside : i ≤ k + 1023) : (ofRatio negative (2 ^ i) (2 ^ k)).isFinite = true := by
  rw [ofRatio_pow negative normal, ofRank, dif_pos (rank_lt inside)]
  rfl

/-- A power of two with a larger exponent is beyond the range of numbers. -/
theorem isFinite_ofRatio_pow_of_lt {negative : Bool} {i k : Nat} (beyond : k + 1023 < i) :
    (ofRatio negative (2 ^ i) (2 ^ k)).isFinite = false := by
  have outside : ¬ (i + 1023 - k) * span < rankCount := by
    have steps : 2047 * span ≤ (i + 1023 - k) * span := Nat.mul_le_mul_right span (by omega)
    exact Nat.not_lt_of_le steps
  rw [ofRatio_pow negative (by omega), ofRank, dif_neg outside]
  rfl

theorem value?_ofRank {rank : Nat} (inside : rank < rankCount) :
    (ofRank false rank).value? = some (((magnitude rank).1 : ℚ) / (magnitude rank).2) := by
  rw [ofRank, dif_pos inside]
  rfl

theorem value?_ofRatio_pow {i k : Nat} (normal : k ≤ i + 1022) (inside : i ≤ k + 1023) :
    (ofRatio false (2 ^ i) (2 ^ k)).value? = some (2 ^ i / 2 ^ k) := by
  have powers : 52 + (((i + 1023 - k : Nat) : Int) - 1075).toNat + k
      = i + (1075 - ((i + 1023 - k : Nat) : Int)).toNat := by omega
  rw [ofRatio_pow false normal, value?_ofRank (rank_lt inside), magnitude_mul_span (by omega)]
  have nonzero : ∀ n : Nat, (2 : ℚ) ^ n ≠ 0 := fun n => pow_ne_zero n two_ne_zero
  simp only [Nat.cast_mul, Nat.cast_pow, Nat.cast_ofNat]
  rw [Option.some_inj, div_eq_div_iff (nonzero _) (nonzero k), ← pow_add, ← pow_add, ← pow_add,
    powers]

end Binary64

end CallPlan
