import Analytics.Number.Binary64
import Mathlib.Algebra.Order.Field.Power
import Mathlib.Data.Rat.Cast.Order
import Mathlib.Tactic.Ring

/-!
Rounding of counts. What a whole multiple of a power of two is rounded to has a full significand, where it
is not below the format's least exponent, or is infinite; so a whole number turns into such a number.
-/

namespace Analytics

namespace Fraction

theorem toNearest_exact (whole : Nat) {d : Nat} (positive : 0 < d) :
    toNearest (whole * d, d) = whole := by
  unfold toNearest
  have rest : whole * d % d = 0 := Nat.mul_mod_left whole d
  have quotient : whole * d / d = whole := Nat.mul_div_cancel whole positive
  simp only [rest, quotient, Nat.mul_zero, if_pos positive]

theorem toNearest_bounds {q : Fraction} {low high : Nat} (positive : 0 < q.2)
    (above : low * q.2 ≤ q.1) (below : q.1 < high * q.2) :
    low ≤ q.toNearest ∧ q.toNearest ≤ high := by
  have least : low ≤ q.1 / q.2 := (Nat.le_div_iff_mul_le positive).mpr above
  have greatest : q.1 / q.2 < high := (Nat.div_lt_iff_lt_mul positive).mpr below
  unfold toNearest
  dsimp only
  split_ifs <;> omega

theorem scale_positive {q : Fraction} (positive : 0 < q.2) (s : Int) : 0 < (scale q s).2 := by
  cases s with
  | ofNat k => exact positive
  | negSucc k => exact Nat.mul_pos positive (Nat.two_pow_pos (k + 1))

/-- The rational number that a fraction is. -/
def size (q : Fraction) : ℚ := q.1 / q.2

theorem scale_size (q : Fraction) (s : Int) : (scale q s).size = q.size * 2 ^ s := by
  cases s with
  | ofNat k =>
    simp only [scale, size, twoPow, Nat.pow_eq, Int.ofNat_eq_natCast, zpow_natCast]
    push_cast
    ring
  | negSucc k =>
    simp only [scale, size, twoPow, Nat.pow_eq, zpow_negSucc]
    push_cast
    ring

end Fraction

namespace Binary64

/-- Whether a significand has 53 bits, and the exponent is one of the format. -/
structure IsNormal (m : Nat) (e : Int) : Prop where
  least : leastNormal ≤ m
  most : m < 2 * leastNormal
  small : leastExponent ≤ e
  large : e ≤ greatestExponent

theorem leastNormal_eq : leastNormal = 2 ^ 52 := rfl

theorem magnitude_down (m b : Nat) : magnitude m (-(b : Int)) = (m, 2 ^ b) := by
  cases b with
  | zero => simp only [magnitude, Fraction.scale, twoPow, Nat.pow_eq, Nat.pow_zero, Nat.mul_one,
      Int.natCast_zero, Int.neg_zero]
  | succ k =>
    have down : -((k + 1 : Nat) : Int) = Int.negSucc k := rfl
    rw [down]
    simp only [magnitude, Fraction.scale, twoPow, Nat.pow_eq, Nat.one_mul]

theorem magnitude_positive (m : Nat) (e : Int) : 0 < (magnitude m e).2 :=
  Fraction.scale_positive Nat.one_pos e

theorem magnitude_size (m : Nat) (e : Int) : (magnitude m e).size = m * 2 ^ e := by
  unfold magnitude
  rw [Fraction.scale_size, Fraction.size, Nat.cast_one, div_one]

theorem magnitude_log2 {n : Nat} (some : n ≠ 0) (low : Int) :
    ((magnitude n low).1.log2 : Int) - ((magnitude n low).2.log2 : Nat) = n.log2 + low := by
  cases low with
  | ofNat k =>
    have log : (n * 2 ^ k).log2 = n.log2 + k := by
      have positive : 0 < 2 ^ k := Nat.two_pow_pos k
      apply (Nat.log2_eq_iff (Nat.mul_ne_zero some positive.ne')).mpr
      rw [Nat.add_right_comm, Nat.pow_add, Nat.pow_add]
      exact ⟨Nat.mul_le_mul_right _ (Nat.log2_self_le some),
        (Nat.mul_lt_mul_right positive).mpr Nat.lt_log2_self⟩
    simp only [magnitude, Fraction.scale, twoPow, Nat.pow_eq, log]
    rw [show Nat.log2 1 = 0 from rfl, Int.ofNat_eq_natCast]
    omega
  | negSucc k =>
    simp only [magnitude, Fraction.scale, twoPow, Nat.pow_eq, Nat.one_mul, Nat.log2_two_pow]
    rw [Int.negSucc_eq]
    omega

theorem scale_full {n : Nat} (some : n ≠ 0) (low : Int) :
    let q := Fraction.scale (magnitude n low) (-(n.log2 + low - 52))
    0 < q.2 ∧ leastNormal * q.2 ≤ q.1 ∧ q.1 < 2 * leastNormal * q.2 := by
  intro q
  have positive : 0 < q.2 := Fraction.scale_positive (magnitude_positive n low) _
  have above : (0 : ℚ) < q.2 := Nat.cast_pos.mpr positive
  have unit : (2 : ℚ) ^ (-(n.log2 : Int)) * 2 ^ n.log2 = 1 := by
    rw [← zpow_natCast, ← zpow_add₀ two_ne_zero, neg_add_cancel, zpow_zero]
  have size : q.size = n * 2 ^ (-(n.log2 : Int)) * leastNormal := by
    have shift : low + -(n.log2 + low - 52) = -(n.log2 : Int) + (52 : Nat) := by
      rw [Nat.cast_ofNat]
      ring
    rw [Fraction.scale_size, magnitude_size, mul_assoc, ← zpow_add₀ two_ne_zero, shift,
      zpow_add₀ two_ne_zero, zpow_natCast, leastNormal_eq, Nat.cast_pow, Nat.cast_ofNat, mul_assoc]
  have small : (0 : ℚ) < 2 ^ (-(n.log2 : Int)) := zpow_pos two_pos _
  have full : (0 : ℚ) < leastNormal := Nat.cast_pos.mpr (by decide)
  have least : (1 : ℚ) ≤ n * 2 ^ (-(n.log2 : Int)) := by
    have low : (2 : ℚ) ^ n.log2 ≤ n := by exact_mod_cast Nat.log2_self_le some
    rw [← unit, mul_comm]
    exact mul_le_mul_of_nonneg_right low small.le
  have most : n * 2 ^ (-(n.log2 : Int)) < (2 : ℚ) := by
    have high : (n : ℚ) < 2 ^ n.log2 * 2 := by exact_mod_cast Nat.lt_log2_self
    calc n * (2 : ℚ) ^ (-(n.log2 : Int)) < 2 ^ n.log2 * 2 * 2 ^ (-(n.log2 : Int)) :=
          mul_lt_mul_of_pos_right high small
      _ = 2 ^ (-(n.log2 : Int)) * 2 ^ n.log2 * 2 := by ring
      _ = 2 := by rw [unit, one_mul]
  refine ⟨positive, ?_, ?_⟩
  · have held : (leastNormal : ℚ) ≤ q.size := by
      rw [size]
      exact le_mul_of_one_le_left full.le least
    exact_mod_cast (le_div_iff₀ above).mp held
  · have held : q.size < 2 * leastNormal := by
      rw [size]
      exact mul_lt_mul_of_pos_right most full
    exact_mod_cast (div_lt_iff₀ above).mp held

theorem exponentFor_magnitude {n : Nat} (some : n ≠ 0) {low : Int}
    (small : leastExponent ≤ n.log2 + low - 52) :
    exponentFor (magnitude n low) = n.log2 + low - 52 := by
  obtain ⟨positive, above, _⟩ := scale_full some low
  have full := Nat.not_lt.mpr ((Nat.le_div_iff_mul_le positive).mpr above)
  unfold exponentFor
  simp only [magnitude_log2 some, if_neg full]
  exact max_eq_left small

theorem magnitude_some {n : Nat} (some : n ≠ 0) (low : Int) : (magnitude n low).1 ≠ 0 := by
  intro none
  have size := magnitude_size n low
  rw [Fraction.size, none, Nat.cast_zero, zero_div] at size
  exact mul_ne_zero (Nat.cast_ne_zero.mpr some) (zpow_ne_zero low two_ne_zero) size.symm

/-- What a whole multiple of a power of two is rounded to has a full significand, where it is not below
the format's least exponent, or is infinite. -/
theorem round_magnitude {n : Nat} (some : n ≠ 0) {low : Int}
    (small : leastExponent ≤ n.log2 + low - 52) :
    (∃ m e, IsNormal m e ∧ round false (magnitude n low) = .finite false m e) ∨
      round false (magnitude n low) = .infinite false := by
  obtain ⟨positive, above, below⟩ := scale_full some low
  have exponent := exponentFor_magnitude some small
  obtain ⟨least, most⟩ := Fraction.toNearest_bounds positive above below
  unfold round
  simp only [magnitude_some some low, if_false, exponent]
  by_cases full : (Fraction.scale (magnitude n low) (-(n.log2 + low - 52))).toNearest
      = 2 * leastNormal
  · simp only [if_pos full]
    split_ifs with large
    · exact Or.inr rfl
    · exact Or.inl ⟨_, _, ⟨le_rfl, by decide, by omega, not_lt.mp large⟩, rfl⟩
  · simp only [if_neg full]
    split_ifs with large
    · exact Or.inr rfl
    · exact Or.inl ⟨_, _, ⟨least, lt_of_le_of_ne most full, small, not_lt.mp large⟩, rfl⟩

theorem ofInt_magnitude (n : Nat) : ofInt n = round false (magnitude n 0) := by
  have sign : decide ((n : Int) < 0) = false := decide_eq_false (by omega)
  have one : magnitude n 0 = (n, 1) := magnitude_down n 0
  rw [ofInt, sign, Int.natAbs_natCast, one]

theorem ofInt_natCast {n : Nat} (some : n ≠ 0) : (∃ m e, IsNormal m e ∧
    ofInt n = .finite false m e) ∨ ofInt n = .infinite false := by
  rw [ofInt_magnitude]
  refine round_magnitude some ?_
  rw [leastExponent]
  omega

end Binary64

end Analytics
