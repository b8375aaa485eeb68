import Analytics.Number.Shortest
import Analytics.Proofs.Number.Proper
import Mathlib.Algebra.Order.Field.Basic
import Mathlib.Tactic.Linarith
import Mathlib.Tactic.Positivity

/-!
The fractions that are rounded to a number. They lie within half a step of it, or a quarter of one
where the steps below it are finer, and the ends belong to them if the significand is even. Main
statement: every fraction between these ends is rounded to the number.
-/

namespace Analytics

namespace Fraction

variable {p q : Fraction}

theorem size_nonneg (q : Fraction) : 0 ≤ q.size :=
  div_nonneg (Nat.cast_nonneg _) (Nat.cast_nonneg _)

theorem le_iff_size (positive : 0 < p.2) (positive' : 0 < q.2) :
    p.le q = true ↔ p.size ≤ q.size := by
  unfold size
  rw [div_le_div_iff₀ (Nat.cast_pos.mpr positive) (Nat.cast_pos.mpr positive'), le,
    decide_eq_true_eq]
  exact_mod_cast Iff.rfl

theorem lt_iff_size (positive : 0 < p.2) (positive' : 0 < q.2) :
    p.lt q = true ↔ p.size < q.size := by
  unfold size
  rw [div_lt_div_iff₀ (Nat.cast_pos.mpr positive) (Nat.cast_pos.mpr positive'), lt,
    decide_eq_true_eq]
  exact_mod_cast Iff.rfl

theorem size_eq_whole_add (positive : 0 < q.2) :
    q.size = (q.1 / q.2 : Nat) + ((q.1 % q.2 : Nat) : ℚ) / q.2 := by
  have above : (q.2 : ℚ) ≠ 0 := Nat.cast_ne_zero.mpr positive.ne'
  have parts : (q.1 : ℚ) = q.2 * (q.1 / q.2 : Nat) + (q.1 % q.2 : Nat) := by
    exact_mod_cast (Nat.div_add_mod q.1 q.2).symm
  calc q.size = (q.2 * (q.1 / q.2 : Nat) + (q.1 % q.2 : Nat)) / q.2 := by rw [← parts, size]
    _ = (q.1 / q.2 : Nat) + ((q.1 % q.2 : Nat) : ℚ) / q.2 := by
      rw [add_div, mul_div_cancel_left₀ _ above]

/-- Whether a whole number is nearest to a rational one, an even number if two are equally near. -/
structure IsNearest (n : Nat) (x : ℚ) : Prop where
  low : n - 1 / 2 ≤ x
  high : x ≤ n + 1 / 2
  tie : n % 2 = 0 ∨ n - 1 / 2 < x ∧ x < n + 1 / 2

theorem IsNearest.le {m n : Nat} {x : ℚ} (first : IsNearest m x) (second : IsNearest n x) :
    m ≤ n := by
  by_contra! less
  have one : (n : ℚ) + 1 ≤ m := by exact_mod_cast less
  obtain ⟨low, -, tie⟩ := first
  obtain ⟨-, high, tie'⟩ := second
  -- The two are one apart and equally near, so that both of them would be even.
  have apart : (m : ℚ) = n + 1 := le_antisymm (by linarith) one
  have even : m % 2 = 0 := tie.resolve_right fun strict => by linarith [strict.1]
  have even' : n % 2 = 0 := tie'.resolve_right fun strict => by linarith [strict.2]
  have next : m = n + 1 := by exact_mod_cast apart
  omega

theorem IsNearest.unique {m n : Nat} {x : ℚ} (first : IsNearest m x) (second : IsNearest n x) :
    m = n := le_antisymm (first.le second) (second.le first)

theorem toNearest_isNearest (positive : 0 < q.2) : IsNearest q.toNearest q.size := by
  have above : (0 : ℚ) < q.2 := Nat.cast_pos.mpr positive
  have size := size_eq_whole_add positive
  have least : 0 ≤ ((q.1 % q.2 : Nat) : ℚ) / q.2 := by positivity
  have most : ((q.1 % q.2 : Nat) : ℚ) / q.2 < 1 :=
    (div_lt_one above).mpr (by exact_mod_cast Nat.mod_lt q.1 positive)
  have below : 2 * (q.1 % q.2) < q.2 ↔ ((q.1 % q.2 : Nat) : ℚ) / q.2 < 1 / 2 := by
    rw [div_lt_iff₀ above, ← Nat.cast_lt (α := ℚ), Nat.cast_mul, Nat.cast_ofNat]
    constructor <;> intro less <;> linarith
  have beyond : q.2 < 2 * (q.1 % q.2) ↔ 1 / 2 < ((q.1 % q.2 : Nat) : ℚ) / q.2 := by
    rw [lt_div_iff₀ above, ← Nat.cast_lt (α := ℚ), Nat.cast_mul, Nat.cast_ofNat]
    constructor <;> intro less <;> linarith
  unfold toNearest
  dsimp only
  rw [if_congr below rfl rfl, if_congr beyond rfl rfl]
  generalize ((q.1 % q.2 : Nat) : ℚ) / q.2 = rest at *
  generalize q.1 / q.2 = whole at *
  have next : ((whole + 1 : Nat) : ℚ) = whole + 1 := Nat.cast_succ whole
  rw [size]
  split_ifs with down up even
  · exact ⟨by linarith, by linarith, .inr ⟨by linarith, by linarith⟩⟩
  · exact ⟨by linarith, by linarith, .inr ⟨by linarith, by linarith⟩⟩
  · exact ⟨by linarith, by linarith, .inl even⟩
  · exact ⟨by linarith, by linarith, .inl (by omega)⟩

theorem toNearest_eq {n : Nat} (positive : 0 < q.2) (nearest : IsNearest n q.size) :
    q.toNearest = n := (toNearest_isNearest positive).unique nearest

end Fraction

namespace Decimal

structure Interval.Holds (i : Interval) (x : ℚ) : Prop where
  low : i.low.size ≤ x
  high : x ≤ i.high.size
  ends : i.closed = true ∨ i.low.size < x ∧ x < i.high.size

theorem Interval.holds_iff {i : Interval} {q : Fraction} (low : 0 < i.low.2) (high : 0 < i.high.2)
    (positive : 0 < q.2) : i.holds q = true ↔ i.Holds q.size := by
  unfold Interval.holds
  split_ifs with closed
  · rw [Bool.and_eq_true, Fraction.le_iff_size low positive, Fraction.le_iff_size positive high]
    exact ⟨fun ⟨above, below⟩ => ⟨above, below, .inl closed⟩, fun held => ⟨held.low, held.high⟩⟩
  · rw [Bool.and_eq_true, Fraction.lt_iff_size low positive, Fraction.lt_iff_size positive high]
    exact ⟨fun ⟨above, below⟩ => ⟨above.le, below.le, .inr ⟨above, below⟩⟩,
      fun held => held.ends.resolve_left closed⟩

/-- How far below a number, in steps of its own, the fractions begin that are rounded to it. -/
def reachBelow (m : Nat) (e : Int) : ℚ :=
  if m = Binary64.leastNormal ∧ Binary64.leastExponent < e then 1 / 4 else 1 / 2

theorem reachBelow_le (m : Nat) (e : Int) : reachBelow m e ≤ 1 / 2 := by
  unfold reachBelow
  split_ifs <;> norm_num

/-- Where a rational lies in the interval of a number, in steps of the number. -/
structure IsNear (m : Nat) (e : Int) (y : ℚ) : Prop where
  low : m - reachBelow m e ≤ y
  high : y ≤ m + 1 / 2
  ends : m % 2 = 0 ∨ m - reachBelow m e < y ∧ y < m + 1 / 2

theorem quarter_size (n : Nat) (e : Int) :
    (Fraction.scale (n, 1) (e - 2)).size = (n : ℚ) / 4 * 2 ^ e := by
  rw [Fraction.scale_size, Fraction.size, Nat.cast_one, div_one, zpow_sub₀ two_ne_zero]
  norm_num
  ring

theorem intervalOf_low {m : Nat} (some : m ≠ 0) (e : Int) :
    (intervalOf m e).low.size = (m - reachBelow m e) * 2 ^ e := by
  unfold intervalOf reachBelow
  dsimp only
  split_ifs with finer
  · have cast : ((4 * m - 1 : Nat) : ℚ) = 4 * m - 1 := by
      rw [Nat.cast_sub (by omega), Nat.cast_mul, Nat.cast_ofNat, Nat.cast_one]
    rw [quarter_size, cast]
    ring
  · have cast : ((4 * m - 2 : Nat) : ℚ) = 4 * m - 2 := by
      rw [Nat.cast_sub (by omega), Nat.cast_mul, Nat.cast_ofNat, Nat.cast_ofNat]
    rw [quarter_size, cast]
    ring

theorem intervalOf_high (m : Nat) (e : Int) :
    (intervalOf m e).high.size = (m + 1 / 2) * 2 ^ e := by
  unfold intervalOf
  rw [quarter_size, Nat.cast_add, Nat.cast_mul, Nat.cast_ofNat, Nat.cast_ofNat]
  ring

theorem intervalOf_holds {m : Nat} (some : m ≠ 0) {e : Int} {x : ℚ} :
    (intervalOf m e).Holds x ↔ IsNear m e (x * 2 ^ (-e)) := by
  have step : (0 : ℚ) < 2 ^ e := zpow_pos two_pos e
  have closed : (intervalOf m e).closed = true ↔ m % 2 = 0 := decide_eq_true_iff
  have le (a b : ℚ) : a * 2 ^ e ≤ b ↔ a ≤ b * 2 ^ (-e) := by
    rw [zpow_neg, ← div_eq_mul_inv, le_div_iff₀ step]
  have ge (a b : ℚ) : b ≤ a * 2 ^ e ↔ b * 2 ^ (-e) ≤ a := by
    rw [zpow_neg, ← div_eq_mul_inv, div_le_iff₀ step]
  have lt (a b : ℚ) : a * 2 ^ e < b ↔ a < b * 2 ^ (-e) := lt_iff_lt_of_le_iff_le (ge a b)
  have gt (a b : ℚ) : b < a * 2 ^ e ↔ b * 2 ^ (-e) < a := lt_iff_lt_of_le_iff_le (le a b)
  constructor
  · rintro ⟨low, high, ends⟩
    rw [intervalOf_low some, intervalOf_high, closed, lt, gt] at ends
    rw [intervalOf_low some, le] at low
    rw [intervalOf_high, ge] at high
    exact ⟨low, high, ends⟩
  · rintro ⟨low, high, ends⟩
    refine ⟨?_, ?_, ?_⟩
    · rwa [intervalOf_low some, le]
    · rwa [intervalOf_high, ge]
    · rwa [intervalOf_low some, intervalOf_high, closed, lt, gt]

end Decimal

namespace Binary64

open Decimal (reachBelow reachBelow_le IsNear)

variable {negative : Bool} {q : Fraction} {m : Nat} {e : Int}

theorem scaled_succ (x : ℚ) (e : Int) : x * 2 ^ (-e) = 2 * (x * 2 ^ (-(e + 1))) := by
  have shift : -e = 1 + -(e + 1) := by ring
  rw [shift, zpow_add₀ two_ne_zero, zpow_one, mul_left_comm]

theorem scaled_mono {x : ℚ} (positive : 0 ≤ x) {d e : Int} (below : d ≤ e) :
    x * 2 ^ (-e) ≤ x * 2 ^ (-d) :=
  mul_le_mul_of_nonneg_left (zpow_le_zpow_right₀ one_le_two (neg_le_neg below)) positive

theorem IsProper.most (proper : (finite negative m e).IsProper) : m < 2 * leastNormal := by
  rcases proper with normal | ⟨below, -⟩
  · exact normal.most
  · omega

theorem IsProper.large (proper : (finite negative m e).IsProper) : e ≤ greatestExponent := by
  rcases proper with normal | ⟨-, rfl⟩
  · exact normal.large
  · decide

/-- A fraction near a number is rounded at the number's own exponent, or right below the least full
significand at the exponent before it. -/
theorem exponentFor_near (positive : 0 < q.2) (proper : (finite negative m e).IsProper)
    (some : q.1 ≠ 0) (near : IsNear m e (q.size * 2 ^ (-e))) :
    exponentFor q = e ∨ exponentFor q = e - 1 ∧ m = leastNormal ∧ leastExponent < e ∧
      q.size * 2 ^ (-e) < leastNormal := by
  obtain ⟨deep, below, full⟩ := exponentFor_bounds some positive
  generalize exponentFor q = f at *
  have whole : (0 : ℚ) ≤ q.size := q.size_nonneg
  -- One exponent more halves the significand, so two exponents are left at most.
  have most : (m : ℚ) + 1 ≤ 2 * leastNormal := by exact_mod_cast proper.most
  have upTo : f ≤ e := by
    by_contra! beyond
    have own : (leastNormal : ℚ) ≤ q.size * 2 ^ (-f) :=
      full.resolve_left (lt_of_le_of_lt proper.deep beyond).ne'
    have half := scaled_succ q.size e
    have less := scaled_mono whole (Int.add_one_le_of_lt beyond)
    linarith [near.high]
  rcases eq_or_lt_of_le upTo with same | less
  · exact .inl same
  · have normal : IsNormal m e := proper.resolve_right fun deepest => by omega
    have least : (leastNormal : ℚ) ≤ m := by exact_mod_cast normal.least
    have double : q.size * 2 ^ (-(e - 1)) = 2 * (q.size * 2 ^ (-e)) := by
      rw [scaled_succ, Int.sub_add_cancel]
    have short : q.size * 2 ^ (-e) < leastNormal := by
      have held := scaled_mono whole (Int.le_sub_one_of_lt less)
      linarith
    have lowest : m = leastNormal := by
      have bound : (m : ℚ) < leastNormal + 1 := by linarith [near.low, reachBelow_le m e]
      exact le_antisymm (Nat.lt_succ_iff.mp (by exact_mod_cast bound)) normal.least
    have higher : leastExponent < e := lt_of_le_of_lt deep less
    have before : f = e - 1 := by
      by_contra other
      have quarter : q.size * 2 ^ (-(e - 2)) = 2 * (q.size * 2 ^ (-(e - 1))) := by
        rw [scaled_succ, show e - 2 + 1 = e - 1 by ring]
      have held := scaled_mono whole (show f ≤ e - 2 by omega)
      have large : (1 : ℚ) ≤ leastNormal := by norm_num [leastNormal]
      linarith [near.low, reachBelow_le m e]
    exact .inr ⟨before, lowest, higher, short⟩

theorem round_held (positive : 0 < q.2) (proper : (finite negative m e).IsProper) (some : m ≠ 0)
    (held : (Decimal.intervalOf m e).Holds q.size) : round negative q = .finite negative m e := by
  have near := (Decimal.intervalOf_holds some).mp held
  have counted : q.1 ≠ 0 := by
    intro none
    have nothing : q.size = 0 := by rw [Fraction.size, none, Nat.cast_zero, zero_div]
    have one : (1 : ℚ) ≤ m := by exact_mod_cast Nat.one_le_iff_ne_zero.mpr some
    have low := near.low
    rw [nothing, zero_mul] at low
    linarith [reachBelow_le m e]
  have scaled (f : Int) : 0 < (Fraction.scale q (-f)).2 := Fraction.scale_positive positive (-f)
  unfold round
  rw [if_neg counted]
  rcases exponentFor_near positive proper counted near with own | ⟨before, rfl, higher, short⟩
  · have nearest : (Fraction.scale q (-e)).toNearest = m := by
      apply Fraction.toNearest_eq (scaled e)
      rw [Fraction.scale_size]
      have reach := reachBelow_le m e
      obtain ⟨low, high, ends⟩ := near
      refine ⟨by linarith, high, ends.imp_right ?_⟩
      rintro ⟨above, below⟩
      exact ⟨by linarith, below⟩
    simp only [own, nearest, if_neg (Nat.ne_of_lt proper.most), if_neg (not_lt.mpr proper.large)]
  · -- The fraction is next to the full significand, which the finer steps reach by carrying.
    have reach : reachBelow leastNormal e = 1 / 4 := if_pos ⟨rfl, higher⟩
    have double : q.size * 2 ^ (-(e - 1)) = 2 * (q.size * 2 ^ (-e)) := by
      rw [scaled_succ, Int.sub_add_cancel]
    have nearest : (Fraction.scale q (-(e - 1))).toNearest = 2 * leastNormal := by
      apply Fraction.toNearest_eq (scaled (e - 1))
      rw [Fraction.scale_size, double]
      have low := near.low
      rw [reach] at low
      refine ⟨?_, ?_, .inl (Nat.mul_mod_right 2 _)⟩
      · push_cast
        linarith
      · push_cast
        linarith
    simp only [before, nearest, if_true, Int.sub_add_cancel, if_neg (not_lt.mpr proper.large)]

end Binary64

end Analytics
