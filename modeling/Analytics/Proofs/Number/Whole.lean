import Analytics.Proofs.Number.Proper
import Analytics.Proofs.Number.Size
import Mathlib.Algebra.BigOperators.Ring.Finset
import Mathlib.Algebra.Order.BigOperators.Group.List
import Mathlib.Data.List.Induction

/-!
Whole numbers that are kept. A whole number of at most 53 bits, before its trailing zeros, is a number of
the format; two of them are added without rounding where their sum is one. Main statement: a sum
that is kept at every step is the sum of the whole numbers, and so does not depend on their order.
-/

namespace Analytics

namespace Binary64

def IsKept (i : Int) : Prop := (ofInt i).value = i

theorem kept_zero : IsKept 0 := by
  unfold IsKept ofInt round value
  simp

theorem value_neg (x : Binary64) : x.neg.value = -x.value := by
  cases x with
  | finite negative m e => cases negative <;> simp [neg, value]
  | infinite negative => exact neg_zero.symm
  | nan => exact neg_zero.symm

theorem ofInt_value {n : Nat} (some : n ≠ 0) (kept : (ofInt n).value = n) :
    ∃ m e, IsNormal m e ∧ ofInt n = .finite false m e ∧ (n : ℚ) = m * 2 ^ e := by
  rcases ofInt_natCast some with ⟨m, e, normal, number⟩ | number
  · refine ⟨m, e, normal, number, ?_⟩
    rw [number] at kept
    exact kept.symm.trans (one_mul _)
  · rw [number] at kept
    exact absurd kept.symm (Nat.cast_ne_zero.mpr some)

theorem IsKept.normal {i : Int} (kept : IsKept i) (some : i ≠ 0) : ∃ m e, IsNormal m e ∧
    ofInt i = .finite (decide (i < 0)) m e ∧ (i.natAbs : ℚ) = m * 2 ^ e := by
  unfold IsKept at kept
  obtain ⟨n, rfl | rfl⟩ := Int.eq_nat_or_neg i
  · have positive : n ≠ 0 := by omega
    obtain ⟨m, e, normal, number, size⟩ := ofInt_value positive (by exact_mod_cast kept)
    refine ⟨m, e, normal, ?_, by rwa [Int.natAbs_natCast]⟩
    rw [number, decide_eq_false (by omega)]
  · have positive : n ≠ 0 := by omega
    rw [ofInt_neg positive, value_neg, Int.cast_neg, neg_inj] at kept
    obtain ⟨m, e, normal, number, size⟩ := ofInt_value positive (by exact_mod_cast kept)
    refine ⟨m, e, normal, ?_, by rwa [Int.natAbs_neg, Int.natAbs_natCast]⟩
    rw [ofInt_neg positive, number, decide_eq_true (by omega)]
    rfl

theorem IsKept.finite {i : Int} (kept : IsKept i) :
    ∃ m e, ofInt i = .finite (decide (i < 0)) m e := by
  by_cases none : i = 0
  · rw [none]
    exact ⟨0, leastExponent, rfl⟩
  · obtain ⟨m, e, _, number, _⟩ := kept.normal none
    exact ⟨m, e, number⟩

theorem add_kept {a b : Int} (first : IsKept a) (second : IsKept b) (sum : IsKept (a + b)) :
    (ofInt a).add (ofInt b) = ofInt (a + b) := by
  obtain ⟨m, e, left⟩ := first.finite
  obtain ⟨n, f, right⟩ := second.finite
  unfold IsKept at first second
  rw [left, value_multiple _ m (min_le_left e f)] at first
  rw [right, value_multiple _ n (min_le_right e f)] at second
  rw [left, right, add]
  generalize multiple (decide (a < 0)) m (e - min e f).toNat = x at first
  generalize multiple (decide (b < 0)) n (f - min e f).toNat = y at second
  -- Both numbers are whole multiples of the smaller of their units, and so is the sum.
  have up : (0 : ℚ) < 2 ^ min e f := zpow_pos two_pos _
  have total : ((x + y : Int) : ℚ) * 2 ^ min e f = ((a + b : Int) : ℚ) := by
    push_cast
    rw [add_mul, first, second]
  split_ifs with none
  · have zero : a + b = 0 := by
      rw [none, Int.cast_zero, zero_mul] at total
      exact_mod_cast total.symm
    have sign : (decide (a < 0) && decide (b < 0)) = false := by
      rw [Bool.and_eq_false_iff, decide_eq_false_iff_not, decide_eq_false_iff_not]
      omega
    rw [zero, sign]
    rfl
  · have some : a + b ≠ 0 := by
      intro zero
      rw [zero, Int.cast_zero] at total
      exact none (by exact_mod_cast (mul_eq_zero.mp total).resolve_right up.ne')
    obtain ⟨k, g, normal, number, size⟩ := sum.normal some
    have sign : decide (x + y < 0) = decide (a + b < 0) := by
      apply decide_eq_decide.mpr
      have below : ((x + y : Int) : ℚ) < 0 ↔ ((a + b : Int) : ℚ) < 0 := by
        rw [← total]
        exact ⟨fun less => mul_neg_of_neg_of_pos less up, fun less => neg_of_mul_neg_left less up.le⟩
      exact_mod_cast below
    rw [number, ← sign]
    apply round_kept _ normal
    rw [← size, Nat.cast_natAbs, Nat.cast_natAbs, Int.cast_abs, Int.cast_abs, ← total, abs_mul,
      abs_of_pos up]

/-- Whether whole numbers are added up, one after the other, without rounding: each of them is kept, and
so is the sum of all up to each of them. -/
structure SumsKept (is : List Int) : Prop where
  items : ∀ i ∈ is, IsKept i
  sums : ∀ front, front <+: is → IsKept front.sum

theorem SumsKept.front {is front : List Int} (kept : SumsKept is) (first : front <+: is) :
    SumsKept front where
  items i member := kept.items i (first.subset member)
  sums _ early := kept.sums _ (early.trans first)

theorem sum_kept {is : List Int} (kept : SumsKept is) :
    (is.map ofInt).foldl add zero = ofInt is.sum := by
  induction is using List.reverseRecOn with
  | nil => rfl
  | append_singleton front i ih =>
    have first : front <+: front ++ [i] := List.prefix_append front [i]
    have item := kept.items i (List.mem_append_right front List.mem_cons_self)
    have whole := kept.sums (front ++ [i]) (List.prefix_refl _)
    rw [List.sum_append, List.sum_singleton] at whole ⊢
    rw [List.map_append, List.foldl_append, ih (kept.front first)]
    exact add_kept (kept.sums front first) item whole

theorem sum_kept_perm {is js : List Int} (kept : SumsKept is) (kept' : SumsKept js)
    (same : (is.map ofInt).Perm (js.map ofInt)) :
    (is.map ofInt).foldl add zero = (js.map ofInt).foldl add zero := by
  have values {ks : List Int} (kept : SumsKept ks) :
      (ks.map ofInt).map value = ks.map (Int.cast (R := ℚ)) := by
    rw [List.map_map]
    exact List.map_congr_left kept.items
  have sums : ((is.sum : Int) : ℚ) = (js.sum : Int) := by
    have total := (same.map value).sum_eq
    rwa [values kept, values kept', ← Int.cast_list_sum, ← Int.cast_list_sum] at total
  rw [sum_kept kept, sum_kept kept', Int.cast_injective sums]

theorem ofInt_small {k : Nat} (some : k ≠ 0) (small : k < 2 ^ 53) : ofInt k
    = .finite false (k * 2 ^ (52 - k.log2)) (-((52 - k.log2 : Nat) : Int)) := by
  have bits : k.log2 ≤ 52 := Nat.lt_succ_iff.mp ((Nat.log2_lt some).mpr small)
  obtain ⟨r, split⟩ := Nat.exists_eq_add_of_le bits
  have rest : 52 - k.log2 = r := by omega
  rw [ofInt_magnitude, rest]
  apply round_kept
  · constructor
    · rw [leastNormal_eq, split, Nat.pow_add]
      exact Nat.mul_le_mul_right _ (Nat.log2_self_le some)
    · rw [leastNormal_eq, split, Nat.pow_add, ← Nat.mul_assoc, ← Nat.pow_succ']
      exact (Nat.mul_lt_mul_right (Nat.two_pow_pos r)).mpr Nat.lt_log2_self
    · rw [leastExponent]
      omega
    · rw [greatestExponent]
      omega
  · rw [Nat.cast_mul, Nat.cast_pow, Nat.cast_ofNat, zpow_zero, mul_one, zpow_neg, zpow_natCast,
      mul_inv_cancel_right₀ (pow_ne_zero _ two_ne_zero)]

theorem kept_small {i : Int} (small : i.natAbs < 2 ^ 53) : IsKept i := by
  have counted {n : Nat} (some : n ≠ 0) (small : n < 2 ^ 53) : (ofInt n).value = n := by
    rw [ofInt_small some small, value, zpow_neg, zpow_natCast]
    push_cast
    rw [one_mul, mul_inv_cancel_right₀ (pow_ne_zero _ two_ne_zero)]
  unfold IsKept
  obtain ⟨n, rfl | rfl⟩ := Int.eq_nat_or_neg i
  · by_cases none : n = 0
    · rw [none]
      exact kept_zero
    · rw [counted none (by omega)]
      norm_cast
  · by_cases none : n = 0
    · rw [none]
      exact kept_zero
    · rw [ofInt_neg none, value_neg, counted none (by omega)]
      norm_cast

/-- Whole numbers whose sizes come to less than 2⁵³ are added without rounding, in every order. -/
theorem sumsKept_small {is : List Int} (small : (is.map Int.natAbs).sum < 2 ^ 53) : SumsKept is := by
  have size (js : List Int) : js.sum.natAbs ≤ (js.map Int.natAbs).sum := by
    induction js with
    | nil => exact le_rfl
    | cons j rest ih =>
      rw [List.sum_cons, List.map_cons, List.sum_cons]
      exact (Int.natAbs_add_le j rest.sum).trans (Nat.add_le_add_left ih _)
  have part {js : List Int} (within : js.Sublist is) : js.sum.natAbs < 2 ^ 53 :=
    lt_of_le_of_lt ((size js).trans ((within.map Int.natAbs).sum_le_sum fun _ _ => Nat.zero_le _)) small
  constructor
  · intro i member
    have single := part (List.singleton_sublist.mpr member)
    rw [List.sum_singleton] at single
    exact kept_small single
  · exact fun front first => kept_small (part first.sublist)

theorem sum_ofInt {ns : List Nat} (small : ns.sum < 2 ^ 53) :
    (ns.map fun n => ofInt (n : Nat)).foldl add zero = .ofInt ns.sum := by
  have sizes : ((ns.map Nat.cast).map Int.natAbs).sum = ns.sum := by
    rw [List.map_map]
    exact congrArg List.sum (List.map_id'' Int.natAbs_natCast ns)
  have whole := sum_kept (sumsKept_small (sizes.symm ▸ small))
  rw [List.map_map, ← Nat.cast_list_sum] at whole
  exact whole

end Binary64

end Analytics
