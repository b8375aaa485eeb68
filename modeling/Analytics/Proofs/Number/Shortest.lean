import Analytics.Proofs.Number.Digits
import Analytics.Proofs.Number.Nearest
import Mathlib.Data.Nat.Cast.Order.Field

/-!
The fewest digits of a number. Whatever the search finds lies among the fractions that are rounded
to the number: a decimal of the grid because that is checked, and the last resort of seventeen
digits because these are finer than the steps of the format.
-/

namespace Analytics

namespace Fraction

theorem scaleTen_positive {q : Fraction} (positive : 0 < q.2) (k : Int) : 0 < (scaleTen q k).2 := by
  cases k with
  | ofNat k => exact positive
  | negSucc k => exact Nat.mul_pos positive (Nat.pow_pos (by decide))

theorem scaleTen_size (q : Fraction) (k : Int) : (scaleTen q k).size = q.size * 10 ^ k := by
  cases k with
  | ofNat k =>
    simp only [scaleTen, size, tenPow, Nat.pow_eq, Int.ofNat_eq_natCast, zpow_natCast]
    push_cast
    ring
  | negSucc k =>
    simp only [scaleTen, size, tenPow, Nat.pow_eq, zpow_negSucc]
    push_cast
    ring

theorem scaleTen_whole_size (n : Nat) (k : Int) : (scaleTen (n, 1) k).size = n * 10 ^ k := by
  rw [scaleTen_size, size, Nat.cast_one, div_one]

end Fraction

namespace Decimal

variable {i : Interval} {q : Fraction} {m : Nat} {e : Int}

/-- The rational number that digits with a power stand for. -/
def value (d : Decimal) : ℚ := d.digits * 10 ^ d.power

theorem value_scaleTen (d : Decimal) : (Fraction.scaleTen (d.digits, 1) d.power).size = d.value :=
  Fraction.scaleTen_whole_size d.digits d.power

/-- Whether both bounds of an interval are fractions. -/
structure Interval.IsSound (i : Interval) : Prop where
  low : 0 < i.low.2
  high : 0 < i.high.2

theorem intervalOf_sound (m : Nat) (e : Int) : (intervalOf m e).IsSound where
  low := Fraction.scale_positive Nat.one_pos _
  high := Fraction.scale_positive Nat.one_pos _

theorem onGrid_held (sound : i.IsSound) {power : Int} {d : Decimal}
    (found : onGrid? i q power = some d) : i.Holds d.value := by
  have checked {n : Nat} (held : i.holds (Fraction.scaleTen (n, 1) power) = true) :
      i.Holds (value ⟨n, power⟩) := by
    have positive := Fraction.scaleTen_positive (q := (n, 1)) Nat.one_pos power
    rw [← value_scaleTen]
    exact (Interval.holds_iff sound.low sound.high positive).mp held
  unfold onGrid? at found
  dsimp only at found
  generalize (Fraction.scaleTen q (-power)).1 / (Fraction.scaleTen q (-power)).2 = below at found
  generalize (if _ = below then below + 1 else below) = other at found
  split_ifs at found with first second
  · cases found
    exact checked first
  · cases found
    exact checked second

theorem search_held (sound : i.IsSound) {count : Nat} {power : Int}
    (last : i.Holds (value ⟨(Fraction.scaleTen q (-(power - count))).toNearest, power - count⟩)) :
    i.Holds (search i q count power).value := by
  induction count generalizing power with
  | zero =>
    rw [Int.natCast_zero, Int.sub_zero] at last
    exact last
  | succ count ih =>
    have shift : power - (count + 1 : Nat) = power - 1 - count := by
      push_cast
      ring
    rw [search]
    split
    · rename_i d found
      exact onGrid_held sound found
    · apply ih
      rwa [← shift]

theorem le_search_power (i : Interval) (q : Fraction) (count : Nat) (power : Int) :
    power - count ≤ (search i q count power).power := by
  induction count generalizing power with
  | zero => exact (Int.sub_zero power).le
  | succ count ih =>
    rw [search]
    split
    · rename_i d found
      have own : d.power = power := by
        unfold onGrid? at found
        dsimp only at found
        split_ifs at found <;> cases found <;> rfl
      omega
    · have later := ih (power - 1)
      omega

theorem trim_value (count : Nat) (d : Decimal) : (trim count d).value = d.value := by
  induction count generalizing d with
  | zero => rfl
  | succ count ih =>
    unfold trim
    split_ifs with round
    · have digits : (d.digits : ℚ) = (d.digits / 10 : Nat) * 10 := by
        exact_mod_cast (Nat.div_mul_cancel (Nat.dvd_of_mod_eq_zero round.2)).symm
      calc (trim count ⟨d.digits / 10, d.power + 1⟩).value
          = (d.digits / 10 : Nat) * 10 ^ (d.power + 1) := ih _
        _ = (d.digits / 10 : Nat) * 10 * 10 ^ d.power := by
          rw [zpow_add_one₀ (by norm_num)]
          ring
        _ = d.value := by rw [← digits, value]
    · rfl

theorem le_trim_power (count : Nat) (d : Decimal) : d.power ≤ (trim count d).power := by
  induction count generalizing d with
  | zero => exact le_rfl
  | succ count ih =>
    unfold trim
    split_ifs
    · have later := ih ⟨d.digits / 10, d.power + 1⟩
      dsimp only at later
      omega
    · exact le_rfl

theorem digitCount_positive (n : Nat) : 0 < digitCount n :=
  List.length_pos_of_ne_nil Nat.toDigits_ne_nil

theorem digitCount_le_iff {n k : Nat} (some : 0 < k) : digitCount n ≤ k ↔ n < 10 ^ k :=
  Nat.length_toDigits_le_iff (by decide) some

theorem lt_ten_pow (n : Nat) : n < 10 ^ digitCount n :=
  (digitCount_le_iff (digitCount_positive n)).mp le_rfl

theorem ten_pow_le {n : Nat} (some : n ≠ 0) : 10 ^ (digitCount n - 1) ≤ n := by
  by_cases single : digitCount n = 1
  · rw [single]
    exact Nat.one_le_iff_ne_zero.mpr some
  · have more := digitCount_positive n
    apply not_lt.mp
    intro less
    have fewer := (digitCount_le_iff (by omega)).mpr less
    omega

theorem leadingPower_le (some : q.1 ≠ 0) (positive : 0 < q.2) :
    (10 : ℚ) ^ leadingPower q ≤ q.size := by
  have above : (0 : ℚ) < q.2 := Nat.cast_pos.mpr positive
  have top : 0 < q.1 := Nat.pos_of_ne_zero some
  unfold leadingPower
  split_ifs with large
  · have whole : q.1 / q.2 ≠ 0 := (Nat.div_pos large positive).ne'
    have exponent : (digitCount (q.1 / q.2) : Int) - 1 = (digitCount (q.1 / q.2) - 1 : Nat) := by
      have := digitCount_positive (q.1 / q.2)
      omega
    calc (10 : ℚ) ^ ((digitCount (q.1 / q.2) : Int) - 1)
        = ((10 ^ (digitCount (q.1 / q.2) - 1) : Nat) : ℚ) := by
          rw [exponent, zpow_natCast]
          push_cast
          rfl
      _ ≤ (q.1 / q.2 : Nat) := by exact_mod_cast ten_pow_le whole
      _ ≤ q.size := Nat.cast_div_le
  · generalize count : digitCount ((q.2 + q.1 - 1) / q.1 - 1) = k
    have less : (q.2 + q.1 - 1) / q.1 - 1 < 10 ^ k := count ▸ lt_ten_pow _
    have fits : q.2 ≤ 10 ^ k * q.1 := by
      have upTo : (q.2 + q.1 - 1) / q.1 < 10 ^ k + 1 := by omega
      have bound := (Nat.div_lt_iff_lt_mul top).mp upTo
      rw [Nat.add_mul, Nat.one_mul] at bound
      omega
    rw [zero_sub, zpow_neg, zpow_natCast, Fraction.size, le_div_iff₀ above,
      inv_mul_le_iff₀ (by positivity)]
    exact_mod_cast fits

theorem digitCount_le {n k : Nat} (some : 0 < k) (less : n < 2 ^ k) : digitCount n ≤ k :=
  (digitCount_le_iff some).mpr (less.trans_le (Nat.pow_le_pow_left (by decide) k))

/-- The leading digit of a fraction is not further behind the point than the bits of what divides
it. -/
theorem le_leadingPower {k : Nat} (some : q.1 ≠ 0) (small : q.2 ≤ 2 ^ k) (positive : 0 < k) :
    -(k : Int) ≤ leadingPower q := by
  unfold leadingPower
  split_ifs with large
  · have := digitCount_positive (q.1 / q.2)
    omega
  · have ratio : (q.2 + q.1 - 1) / q.1 ≤ q.2 := by
      apply Nat.div_le_of_le_mul
      obtain ⟨a, first⟩ := Nat.exists_eq_succ_of_ne_zero some
      obtain ⟨b, second⟩ := Nat.exists_eq_succ_of_ne_zero (by omega : q.2 ≠ 0)
      rw [first, second, Nat.succ_mul, Nat.mul_succ]
      omega
    have few := digitCount_le positive (show (q.2 + q.1 - 1) / q.1 - 1 < 2 ^ k by omega)
    omega

theorem le_leadingPower_magnitude (some : m ≠ 0) (deep : Binary64.leastExponent ≤ e) :
    Binary64.leastExponent ≤ leadingPower (Binary64.magnitude m e) := by
  have top := Binary64.magnitude_some some e
  rw [Binary64.leastExponent] at deep ⊢
  cases e with
  | ofNat k =>
    have bits : (Binary64.magnitude m (Int.ofNat k)).2 ≤ 2 ^ 1 := Nat.one_le_two_pow
    have own := le_leadingPower top bits one_pos
    omega
  | negSucc k =>
    have bits : (Binary64.magnitude m (Int.negSucc k)).2 ≤ 2 ^ (k + 1) := (Nat.one_mul _).le
    have own := le_leadingPower top bits (Nat.succ_pos k)
    omega

theorem fallback_held {negative : Bool} (proper : (Binary64.finite negative m e).IsProper)
    (some : m ≠ 0) {power : Int} (fine : power = leadingPower (Binary64.magnitude m e) - 16) :
    (intervalOf m e).Holds
      (value ⟨(Fraction.scaleTen (Binary64.magnitude m e) (-power)).toNearest, power⟩) := by
  have positive := Binary64.magnitude_positive m e
  have leading := leadingPower_le (Binary64.magnitude_some some e) positive
  have step : (0 : ℚ) < 2 ^ e := zpow_pos two_pos e
  have unit : (0 : ℚ) < 10 ^ power := zpow_pos (by norm_num) power
  -- The unit of the grid, in steps of the number.
  generalize grid : (10 : ℚ) ^ power * 2 ^ (-e) = ε
  have some_ : 0 < ε := grid ▸ mul_pos unit (zpow_pos two_pos _)
  have fineness : ε ≤ m * 10 ^ (-16 : Int) := by
    rw [Binary64.magnitude_size] at leading
    calc ε = 10 ^ leadingPower (Binary64.magnitude m e) * 10 ^ (-16 : Int) * 2 ^ (-e) := by
          rw [← grid, fine, sub_eq_add_neg, zpow_add₀ (by norm_num)]
      _ ≤ m * 2 ^ e * 10 ^ (-16 : Int) * 2 ^ (-e) := by gcongr
      _ = m * 10 ^ (-16 : Int) * (2 ^ e * 2 ^ (-e)) := by ring
      _ = m * 10 ^ (-16 : Int) := by
          rw [← zpow_add₀ two_ne_zero, add_neg_cancel, zpow_zero, mul_one]
  have nearest := Fraction.toNearest_isNearest (Fraction.scaleTen_positive positive (-power))
  generalize (Fraction.scaleTen (Binary64.magnitude m e) (-power)).toNearest = n at nearest ⊢
  have own : (Fraction.scaleTen (Binary64.magnitude m e) (-power)).size * ε = m := by
    rw [Fraction.scaleTen_size, Binary64.magnitude_size, ← grid]
    calc (m : ℚ) * 2 ^ e * 10 ^ (-power) * (10 ^ power * 2 ^ (-e))
        = m * (2 ^ e * 2 ^ (-e)) * (10 ^ (-power) * 10 ^ power) := by ring
      _ = m := by
          rw [← zpow_add₀ two_ne_zero, add_neg_cancel, ← zpow_add₀ (by norm_num), neg_add_cancel,
            zpow_zero, zpow_zero, mul_one, mul_one]
  rw [intervalOf_holds some, value, mul_assoc, grid]
  obtain ⟨low, high, -⟩ := nearest
  have low' := mul_le_mul_of_nonneg_right low some_.le
  have high' := mul_le_mul_of_nonneg_right high some_.le
  rw [own] at low' high'
  have most : (m : ℚ) < 9007199254740992 := by exact_mod_cast proper.most
  have reach : ε / 2 < reachBelow m e := by
    unfold reachBelow
    split_ifs with least
    · have exact_ : (m : ℚ) = 4503599627370496 := by exact_mod_cast least.1
      rw [exact_] at fineness
      norm_num at fineness ⊢
      linarith
    · norm_num at fineness ⊢
      linarith
  have within := reachBelow_le m e
  exact ⟨by linarith, by linarith, .inr ⟨by linarith, by linarith⟩⟩

theorem shortest_held {negative : Bool} (proper : (Binary64.finite negative m e).IsProper)
    (some : m ≠ 0) : (intervalOf m e).Holds (shortest m e).value := by
  unfold shortest
  dsimp only
  rw [trim_value]
  exact search_held (intervalOf_sound m e) (fallback_held proper some rfl)

theorem shortest_positive {negative : Bool} (proper : (Binary64.finite negative m e).IsProper)
    (some : m ≠ 0) : 0 < (shortest m e).value := by
  have one : (1 : ℚ) ≤ m := by exact_mod_cast Nat.one_le_iff_ne_zero.mpr some
  have held := (shortest_held proper some).low
  rw [intervalOf_low some] at held
  refine lt_of_lt_of_le (mul_pos ?_ (zpow_pos two_pos e)) held
  linarith [reachBelow_le m e]

theorem shortest_some {negative : Bool} (proper : (Binary64.finite negative m e).IsProper)
    (some : m ≠ 0) : (shortest m e).digits ≠ 0 := by
  intro none
  have positive := shortest_positive proper some
  rw [value, none, Nat.cast_zero, zero_mul] at positive
  exact lt_irrefl _ positive

theorem shortest_power {negative : Bool} (proper : (Binary64.finite negative m e).IsProper)
    (some : m ≠ 0) : -1090 ≤ (shortest m e).power ∧ (shortest m e).power < 1025 := by
  constructor
  · have leading := le_leadingPower_magnitude some proper.deep
    have searched := le_search_power (intervalOf m e) (Binary64.magnitude m e) 16
      (leadingPower (Binary64.magnitude m e))
    have trimmed := le_trim_power 20 (search (intervalOf m e) (Binary64.magnitude m e) 16
      (leadingPower (Binary64.magnitude m e)))
    unfold shortest
    rw [Binary64.leastExponent] at leading
    push_cast at searched
    dsimp only
    omega
  · have one : (1 : ℚ) ≤ (shortest m e).digits := by
      exact_mod_cast Nat.one_le_iff_ne_zero.mpr (shortest_some proper some)
    have most : (m : ℚ) + 1 ≤ 2 ^ (53 : Int) := by exact_mod_cast proper.most
    have high := (shortest_held proper some).high
    rw [intervalOf_high] at high
    have large : e ≤ 971 := proper.large
    have unit : (0 : ℚ) < 10 ^ (shortest m e).power := zpow_pos (by norm_num) _
    have bound : (10 : ℚ) ^ (shortest m e).power < 10 ^ (1025 : Int) := by
      calc (10 : ℚ) ^ (shortest m e).power
          ≤ (shortest m e).value := le_mul_of_one_le_left unit.le one
        _ ≤ (m + 1 / 2) * 2 ^ e := high
        _ < 2 ^ (53 : Int) * 2 ^ e := by
            apply mul_lt_mul_of_pos_right _ (zpow_pos two_pos e)
            linarith
        _ ≤ 2 ^ (53 : Int) * 2 ^ (971 : Int) := by
            apply mul_le_mul_of_nonneg_left _ (by positivity)
            exact zpow_le_zpow_right₀ one_le_two large
        _ = 2 ^ (1024 : Int) := by rw [← zpow_add₀ two_ne_zero]; rfl
        _ ≤ 10 ^ (1024 : Int) := zpow_le_zpow_left₀ (by decide) (by norm_num) (by norm_num)
        _ < 10 ^ (1025 : Int) := zpow_lt_zpow_right₀ (by norm_num) (by decide)
    exact (zpow_lt_zpow_iff_right₀ (by norm_num)).mp bound

end Decimal

end Analytics
