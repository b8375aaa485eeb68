import Analytics.Number.Binary64
import Mathlib.Algebra.Order.Field.Power
import Mathlib.Data.Rat.Cast.Order
import Mathlib.Order.Compare

/-!
Floating numbers as exact ones. Comparing two numbers, or a whole number with one, compares the
fractions that they stand for.
-/

namespace Analytics.Binary64

/-- The fraction that a finite number stands for. -/
def value : Binary64 → ℚ
  | .finite negative m e => (if negative then -1 else 1) * (m * 2 ^ e)
  | _ => 0

def reach : Binary64 → Nat
  | .nan => 0
  | .infinite true => 1
  | .finite .. => 2
  | .infinite false => 3

theorem value_multiple (negative : Bool) (m : Nat) {low e : Int} (below : low ≤ e) :
    value (.finite negative m e) = (multiple negative m (e - low).toNat : ℚ) * 2 ^ low := by
  obtain ⟨k, rfl⟩ := Int.le.dest below
  have power : (2 : ℚ) ^ (low + (k : Int)) = 2 ^ k * 2 ^ low := by
    rw [zpow_add₀ two_ne_zero, zpow_natCast, mul_comm]
  cases negative <;> simp [value, multiple, power, twoPow, mul_assoc]

theorem compare_whole (a b : Int) : compare (a : ℚ) (b : ℚ) = compare a b := by
  rw [← cmp_eq_compare, ← cmp_eq_compare]
  exact Int.cast_strictMono.cmp_map_eq a b

theorem compare_scaled (a b : Int) (low : Int) :
    compare ((a : ℚ) * 2 ^ low) ((b : ℚ) * 2 ^ low) = compare a b := by
  have positive : (0 : ℚ) < 2 ^ low := zpow_pos two_pos low
  have increasing : StrictMono fun i : Int => (i : ℚ) * 2 ^ low := fun i j less =>
    mul_lt_mul_of_pos_right (Int.cast_lt.mpr less) positive
  rw [← cmp_eq_compare, ← cmp_eq_compare]
  exact increasing.cmp_map_eq a b

theorem compare_value (x y : Binary64) : (compare? x y).getD (compare y.isNaN x.isNaN)
    = (compare x.reach y.reach).then (compare x.value y.value) := by
  cases x with
  | nan =>
    cases y with
    | nan => rfl
    | infinite t => cases t <;> rfl
    | finite t n f => rfl
  | infinite s =>
    cases y with
    | nan => cases s <;> rfl
    | infinite t => cases s <;> cases t <;> rfl
    | finite t n f => cases s <;> rfl
  | finite s m e =>
    cases y with
    | nan => rfl
    | infinite t => cases t <;> rfl
    | finite t n f =>
      rw [value_multiple s m (min_le_left e f), value_multiple t n (min_le_right e f),
        compare_scaled]
      rfl

theorem compareInt_value (i : Int) (x : Binary64) :
    (compareInt? i x).getD .gt = (compare 2 x.reach).then (compare (i : ℚ) x.value) := by
  cases x with
  | nan => rfl
  | infinite s => cases s <;> rfl
  | finite s m e =>
    have whole : (i : ℚ) = ((i * (twoPow (-min e 0).toNat : Nat) : Int) : ℚ) * 2 ^ min e 0 := by
      have cancel : (2 : ℚ) ^ (-min e 0).toNat * 2 ^ min e 0 = 1 := by
        have down : ((-min e 0).toNat : Int) + min e 0 = 0 := by omega
        rw [← zpow_natCast, ← zpow_add₀ two_ne_zero, down, zpow_zero]
      simp only [twoPow, Nat.pow_eq]
      push_cast
      rw [mul_assoc, cancel, mul_one]
    rw [value_multiple s m (min_le_left e 0), whole, compare_scaled]
    rfl

end Analytics.Binary64
