import Analytics.Number.Reading
import Analytics.Proofs.Number.Rounding

/-!
Numbers of the format. A number is proper if its significand is full, or its exponent the least one.
Main statements: what a fraction is rounded to is proper, and a sum that starts at zero takes a proper
number as it is, but for the sign of zero.
-/

namespace Analytics

namespace Fraction

theorem toNearest_whole {q : Fraction} {n : Nat} (positive : 0 < q.2) (whole : q.size = n) :
    q.toNearest = n := by
  have above : (q.2 : ℚ) ≠ 0 := Nat.cast_ne_zero.mpr positive.ne'
  have top : q.1 = n * q.2 := by
    have scaled : (q.1 : ℚ) = n * q.2 := (div_eq_iff above).mp whole
    exact_mod_cast scaled
  have pair : q = (n * q.2, q.2) := Prod.ext top rfl
  rw [pair]
  exact toNearest_exact n positive

theorem size_lt {q : Fraction} {n : Nat} (positive : 0 < q.2) : q.size < n ↔ q.1 < n * q.2 := by
  unfold size
  rw [div_lt_iff₀ (Nat.cast_pos.mpr positive)]
  exact_mod_cast Iff.rfl

theorem size_bounds {q : Fraction} (some : q.1 ≠ 0) (positive : 0 < q.2) :
    (2 : ℚ) ^ ((q.1.log2 : Int) - q.2.log2 - 1) < q.size ∧
      q.size < 2 ^ ((q.1.log2 : Int) - q.2.log2 + 1) := by
  have above : (0 : ℚ) < q.2 := Nat.cast_pos.mpr positive
  have top_le : (2 : ℚ) ^ (q.1.log2 : Int) ≤ q.1 := by exact_mod_cast Nat.log2_self_le some
  have lt_top : (q.1 : ℚ) < 2 ^ ((q.1.log2 : Int) + 1) := by exact_mod_cast Nat.lt_log2_self
  have bottom_le : (2 : ℚ) ^ (q.2.log2 : Int) ≤ q.2 := by
    exact_mod_cast Nat.log2_self_le positive.ne'
  have lt_bottom : (q.2 : ℚ) < 2 ^ ((q.2.log2 : Int) + 1) := by exact_mod_cast Nat.lt_log2_self
  unfold size
  rw [lt_div_iff₀ above, div_lt_iff₀ above]
  constructor
  · calc (2 : ℚ) ^ ((q.1.log2 : Int) - q.2.log2 - 1) * q.2
        < 2 ^ ((q.1.log2 : Int) - q.2.log2 - 1) * 2 ^ ((q.2.log2 : Int) + 1) :=
          mul_lt_mul_of_pos_left lt_bottom (zpow_pos two_pos _)
      _ = 2 ^ (q.1.log2 : Int) := by
          rw [← zpow_add₀ two_ne_zero]
          congr 1
          ring
      _ ≤ q.1 := top_le
  · calc (q.1 : ℚ) < 2 ^ ((q.1.log2 : Int) + 1) := lt_top
      _ = 2 ^ ((q.1.log2 : Int) - q.2.log2 + 1) * 2 ^ (q.2.log2 : Int) := by
          rw [← zpow_add₀ two_ne_zero]
          congr 1
          ring
      _ ≤ 2 ^ ((q.1.log2 : Int) - q.2.log2 + 1) * q.2 :=
          mul_le_mul_of_nonneg_left bottom_le (zpow_pos two_pos _).le

end Fraction

namespace Binary64

theorem round_at (negative : Bool) {t n : Nat} {low e : Int} (some : t ≠ 0)
    (exponent : exponentFor (magnitude t low) = e) (same : (t : ℚ) * 2 ^ low = n * 2 ^ e)
    (most : n < 2 * leastNormal) (large : e ≤ greatestExponent) :
    round negative (magnitude t low) = .finite negative n e := by
  have nearest : (Fraction.scale (magnitude t low) (-e)).toNearest = n := by
    apply Fraction.toNearest_whole (Fraction.scale_positive (magnitude_positive t low) _)
    rw [Fraction.scale_size, magnitude_size, same, mul_assoc, ← zpow_add₀ two_ne_zero,
      add_neg_cancel, zpow_zero, mul_one]
  unfold round
  simp only [magnitude_some some low, if_false, exponent, nearest, if_neg (Nat.ne_of_lt most),
    if_neg (not_lt.mpr large)]

theorem log2_bounds {t : Nat} (some : t ≠ 0) (low : Int) :
    (2 : ℚ) ^ ((t.log2 : Int) + low) ≤ t * 2 ^ low ∧
      (t : ℚ) * 2 ^ low < 2 ^ ((t.log2 : Int) + 1 + low) := by
  have down : (0 : ℚ) < 2 ^ low := zpow_pos two_pos low
  constructor
  · rw [zpow_add₀ two_ne_zero, zpow_natCast]
    exact mul_le_mul_of_nonneg_right (by exact_mod_cast Nat.log2_self_le some) down.le
  · rw [zpow_add₀ two_ne_zero]
    apply mul_lt_mul_of_pos_right _ down
    exact_mod_cast Nat.lt_log2_self (n := t)

theorem multiple_some {t n : Nat} {low e : Int} (same : (t : ℚ) * 2 ^ low = n * 2 ^ e) (some : n ≠ 0) :
    t ≠ 0 := by
  rintro rfl
  rw [Nat.cast_zero, zero_mul] at same
  exact mul_ne_zero (Nat.cast_ne_zero.mpr some) (zpow_ne_zero e two_ne_zero) same.symm

theorem round_kept (negative : Bool) {t n : Nat} {low e : Int} (normal : IsNormal n e)
    (same : (t : ℚ) * 2 ^ low = n * 2 ^ e) :
    round negative (magnitude t low) = .finite negative n e := by
  have least : (2 : ℚ) ^ (52 : Int) ≤ n := by exact_mod_cast normal.least
  have most : (n : ℚ) < 2 ^ (53 : Int) := by exact_mod_cast normal.most
  have up : (0 : ℚ) < 2 ^ e := zpow_pos two_pos e
  have some := multiple_some same (Nat.ne_of_gt (Nat.lt_of_lt_of_le (by decide) normal.least))
  -- Both sides have the same number of bits in front of the point.
  have bits : (t.log2 : Int) + low = 52 + e := by
    obtain ⟨low_le, lt_high⟩ := log2_bounds some low
    have lt_top : (n : ℚ) * 2 ^ e < 2 ^ (53 + e) := by
      rw [zpow_add₀ two_ne_zero]
      exact mul_lt_mul_of_pos_right most up
    have bottom_le : (2 : ℚ) ^ (52 + e) ≤ n * 2 ^ e := by
      rw [zpow_add₀ two_ne_zero]
      exact mul_le_mul_of_nonneg_right least up.le
    rw [same] at low_le lt_high
    have first := (zpow_lt_zpow_iff_right₀ one_lt_two).mp (lt_of_le_of_lt low_le lt_top)
    have second := (zpow_lt_zpow_iff_right₀ one_lt_two).mp (lt_of_le_of_lt bottom_le lt_high)
    omega
  refine round_at negative some ?_ same normal.most normal.large
  have small := normal.small
  rw [exponentFor_magnitude some (by omega)]
  omega

theorem round_below (negative : Bool) {t n : Nat} {low : Int} (below : n < leastNormal) (some : n ≠ 0)
    (same : (t : ℚ) * 2 ^ low = n * 2 ^ leastExponent) :
    round negative (magnitude t low) = .finite negative n leastExponent := by
  have positive := multiple_some same some
  have bits : (t.log2 : Int) + low < 52 + leastExponent := by
    have low_le := (log2_bounds positive low).1
    have most : (n : ℚ) < 2 ^ (52 : Int) := by exact_mod_cast below
    have lt_top : (n : ℚ) * 2 ^ leastExponent < 2 ^ (52 + leastExponent) := by
      rw [zpow_add₀ two_ne_zero]
      exact mul_lt_mul_of_pos_right most (zpow_pos two_pos _)
    rw [same] at low_le
    exact (zpow_lt_zpow_iff_right₀ one_lt_two).mp (lt_of_le_of_lt low_le lt_top)
  refine round_at negative positive ?_ same (by omega) (by decide)
  unfold exponentFor
  rw [magnitude_log2 positive]
  dsimp only
  split_ifs <;> exact max_eq_right (by omega)

/-- Whether a number is one that the format writes so: its significand is full, or its exponent the least
one. -/
def IsProper : Binary64 → Prop
  | .finite _ m e => IsNormal m e ∨ (m < leastNormal ∧ e = leastExponent)
  | _ => True

theorem corrected_bounds {x : ℚ} {guess own : Int} (lower : 2 ^ (guess + 51) < x)
    (upper : x < 2 ^ (guess + 53))
    (rule : (if x * 2 ^ (-guess) < leastNormal then guess - 1 else guess) = own) :
    leastNormal ≤ x * 2 ^ (-own) ∧ x * 2 ^ (-own) < 2 * leastNormal := by
  have least : (leastNormal : ℚ) = 2 ^ (52 : Int) := by norm_num [leastNormal]
  split_ifs at rule with small
  · have double : x * 2 ^ (-own) = 2 * (x * 2 ^ (-guess)) := by
      have shift : -own = 1 + -guess := by omega
      rw [shift, zpow_add₀ two_ne_zero, zpow_one, mul_left_comm]
    rw [double]
    refine ⟨?_, mul_lt_mul_of_pos_left small two_pos⟩
    calc (leastNormal : ℚ) = 2 * (2 ^ (guess + 51) * 2 ^ (-guess)) := by
          rw [← zpow_add₀ two_ne_zero, add_neg_cancel_comm, least, ← zpow_one_add₀ two_ne_zero]
          norm_num
      _ ≤ 2 * (x * 2 ^ (-guess)) := by gcongr
  · rw [← rule]
    refine ⟨not_lt.mp small, ?_⟩
    calc x * 2 ^ (-guess) < 2 ^ (guess + 53) * 2 ^ (-guess) :=
          mul_lt_mul_of_pos_right upper (zpow_pos two_pos _)
      _ = 2 * leastNormal := by
          rw [← zpow_add₀ two_ne_zero, add_neg_cancel_comm, least, ← zpow_one_add₀ two_ne_zero]
          norm_num

/-- The exponent that a fraction is rounded at leaves 53 bits before the point, or is the least one and
leaves at most as many. -/
theorem exponentFor_bounds {q : Fraction} (some : q.1 ≠ 0) (positive : 0 < q.2) :
    leastExponent ≤ exponentFor q ∧ q.size * 2 ^ (-exponentFor q) < 2 * leastNormal ∧
      (exponentFor q = leastExponent ∨ leastNormal ≤ q.size * 2 ^ (-exponentFor q)) := by
  obtain ⟨lower, upper⟩ := Fraction.size_bounds some positive
  have positive_size : 0 < q.size := lt_trans (zpow_pos two_pos _) lower
  unfold exponentFor
  dsimp only
  generalize bits : (q.1.log2 : Int) - (q.2.log2 : Int) - 52 = guess
  have low : (q.1.log2 : Int) - q.2.log2 - 1 = guess + 51 := by omega
  have high : (q.1.log2 : Int) - q.2.log2 + 1 = guess + 53 := by omega
  rw [low] at lower
  rw [high] at upper
  have scaled := Fraction.scale_positive positive (-guess)
  have part : (Fraction.scale q (-guess)).1 / (Fraction.scale q (-guess)).2 < leastNormal ↔
      q.size * 2 ^ (-guess) < leastNormal := by
    rw [Nat.div_lt_iff_lt_mul scaled, ← Fraction.size_lt scaled, Fraction.scale_size]
  rw [if_congr part rfl rfl]
  generalize rule : (if q.size * 2 ^ (-guess) < leastNormal then guess - 1 else guess) = own
  obtain ⟨least, most⟩ := corrected_bounds lower upper rule
  refine ⟨le_max_right _ _, ?_, ?_⟩
  · have fewer : (2 : ℚ) ^ (-max own leastExponent) ≤ 2 ^ (-own) :=
      zpow_le_zpow_right₀ one_le_two (neg_le_neg (le_max_left _ _))
    exact lt_of_le_of_lt (mul_le_mul_of_nonneg_left fewer positive_size.le) most
  · rcases le_total own leastExponent with deep | above
    · exact .inl (max_eq_right deep)
    · rw [max_eq_left above]
      exact .inr least

theorem round_proper (negative : Bool) {q : Fraction} (positive : 0 < q.2) :
    (round negative q).IsProper := by
  unfold round
  by_cases some : q.1 = 0
  · rw [if_pos some]
    exact .inr ⟨by decide, rfl⟩
  · rw [if_neg some]
    dsimp only
    obtain ⟨deep, below, above⟩ := exponentFor_bounds some positive
    generalize exponentFor q = e at deep below above
    have scaled := Fraction.scale_positive positive (-e)
    rw [← Fraction.scale_size] at below above
    have below' : (Fraction.scale q (-e)).1 < 2 * leastNormal * (Fraction.scale q (-e)).2 :=
      (Fraction.size_lt scaled).mp (by exact_mod_cast below)
    have most := (Fraction.toNearest_bounds scaled (Nat.zero_mul _ ▸ Nat.zero_le _) below').2
    have least : e = leastExponent ∨ leastNormal ≤ (Fraction.scale q (-e)).toNearest := by
      refine above.imp_right fun full => ?_
      have above' := Nat.not_lt.mp fun less => not_lt.mpr full ((Fraction.size_lt scaled).mpr less)
      exact (Fraction.toNearest_bounds scaled above' below').1
    generalize (Fraction.scale q (-e)).toNearest = k at most least
    split_ifs with carried large large
    · trivial
    · have higher : leastExponent ≤ e + 1 := by omega
      exact .inl ⟨le_rfl, (by decide : leastNormal < 2 * leastNormal), higher, not_lt.mp large⟩
    · trivial
    · have less : k < 2 * leastNormal := lt_of_le_of_ne most carried
      by_cases full : leastNormal ≤ k
      · exact .inl ⟨full, less, deep, not_lt.mp large⟩
      · exact .inr ⟨not_le.mp full, least.resolve_right full⟩

theorem IsProper.deep {s : Bool} {m : Nat} {e : Int} (proper : (finite s m e).IsProper) :
    leastExponent ≤ e := by
  rcases proper with normal | ⟨_, least⟩
  · exact normal.small
  · exact least.ge

theorem zero_add_some {s : Bool} {m : Nat} {e : Int} (proper : (finite s m e).IsProper)
    (some : m ≠ 0) : zero.add (.finite s m e) = .finite s m e := by
  have whole : multiple s m (e - leastExponent).toNat
      = if s then -((m * 2 ^ (e - leastExponent).toNat : Nat) : Int)
        else ((m * 2 ^ (e - leastExponent).toNat : Nat) : Int) := rfl
  have start : multiple false 0 (leastExponent - leastExponent).toNat = 0 := rfl
  have positive : m * 2 ^ (e - leastExponent).toNat ≠ 0 :=
    Nat.mul_ne_zero some (Nat.two_pow_pos _).ne'
  have same : ((m * 2 ^ (e - leastExponent).toNat : Nat) : ℚ) * 2 ^ leastExponent = m * 2 ^ e := by
    rw [Nat.cast_mul, Nat.cast_pow, Nat.cast_ofNat, mul_assoc, ← zpow_natCast,
      ← zpow_add₀ two_ne_zero, Int.toNat_of_nonneg (Int.sub_nonneg.mpr proper.deep), sub_add_cancel]
  have rounded : round s (magnitude (m * 2 ^ (e - leastExponent).toNat) leastExponent)
      = .finite s m e := by
    rcases proper with normal | ⟨below, rfl⟩
    · exact round_kept s normal same
    · exact round_below s below some same
  rw [zero, add, min_eq_left proper.deep, start, whole]
  generalize m * 2 ^ (e - leastExponent).toNat = total at positive rounded
  rw [← rounded]
  cases s with
  | false =>
    have sign : decide ((total : Int) < 0) = false := decide_eq_false (by omega)
    simp only [Bool.false_eq_true, if_false, Int.zero_add, Int.natCast_eq_zero, positive, sign,
      Int.natAbs_natCast]
  | true =>
    have sign : decide (-(total : Int) < 0) = true := decide_eq_true (by omega)
    simp only [if_true, Int.zero_add, Int.neg_eq_zero, Int.natCast_eq_zero, positive, if_false, sign,
      Int.natAbs_neg, Int.natAbs_natCast]

theorem zero_add_normal {m : Nat} {e : Int} (normal : IsNormal m e) :
    zero.add (.finite false m e) = .finite false m e :=
  zero_add_some (.inl normal) (Nat.ne_of_gt (Nat.lt_of_lt_of_le (by decide) normal.least))

/-- A sum that starts at zero takes a number as it is, but for the sign of zero. -/
theorem zero_add {x : Binary64} (proper : x.IsProper) :
    zero.add x = if x = zero.neg then zero else x := by
  by_cases signed : x = zero.neg
  · rw [if_pos signed, signed]
    rfl
  · rw [if_neg signed]
    cases x with
    | nan => rfl
    | infinite s => rfl
    | finite s m e =>
      by_cases some : m = 0
      · subst some
        rcases proper with normal | ⟨_, rfl⟩
        · exact absurd normal.least (by decide)
        · cases s with
          | false => rfl
          | true => exact absurd rfl signed
      · exact zero_add_some proper some

theorem round_sign (q : Fraction) : round true q = (round false q).neg := by
  unfold round
  dsimp only
  split_ifs <;> rfl

theorem ofInt_neg {n : Nat} (some : n ≠ 0) : ofInt (-(n : Int)) = (ofInt n).neg := by
  have below : decide (-(n : Int) < 0) = true := decide_eq_true (by omega)
  have above : decide ((n : Int) < 0) = false := decide_eq_false (by omega)
  rw [ofInt, ofInt, below, above, round_sign, Int.natAbs_neg]

theorem neg_neg (x : Binary64) : x.neg.neg = x := by
  cases x <;> simp [neg]

theorem ofInt_proper (i : Int) : (ofInt i).IsProper := round_proper _ Nat.one_pos

theorem ofInt_signed (i : Int) : ofInt i ≠ zero.neg := by
  have counted {n : Nat} (some : n ≠ 0) : ofInt n ≠ zero ∧ ofInt n ≠ zero.neg := by
    rcases ofInt_natCast some with ⟨m, e, normal, number⟩ | number
    · rw [number]
      refine ⟨?_, nofun⟩
      rintro ⟨⟩
      exact absurd normal.least (by decide)
    · rw [number]
      exact ⟨nofun, nofun⟩
  by_cases none : i = 0
  · rw [none]
    nofun
  · obtain ⟨n, rfl | rfl⟩ := Int.eq_nat_or_neg i
    · exact (counted (by omega)).2
    · have some : n ≠ 0 := by omega
      rw [ofInt_neg some]
      intro same
      apply (counted some).1
      rw [← neg_neg (ofInt n), same, neg_neg]

theorem zero_add_ofInt (i : Int) : zero.add (.ofInt i) = .ofInt i :=
  (zero_add (ofInt_proper i)).trans (if_neg (ofInt_signed i))

theorem ofText_proper {s : String} {x : Binary64} (read : ofText? s = some x) : x.IsProper := by
  have written (negative : Bool) (w : WrittenDecimal) : (ofWritten negative w).IsProper := by
    unfold ofWritten
    split_ifs
    · exact .inr ⟨by decide, rfl⟩
    · trivial
    · exact .inr ⟨by decide, rfl⟩
    · apply round_proper
      cases w.power with
      | ofNat k => exact Nat.one_pos
      | negSucc k => exact Nat.mul_pos Nat.one_pos (Nat.pow_pos (by decide))
  unfold ofText? at read
  dsimp only at read
  split_ifs at read
  · cases read
    trivial
  · cases read
    trivial
  · obtain ⟨w, _, rfl⟩ := Option.map_eq_some_iff.mp read
    exact written _ w

end Binary64

end Analytics
