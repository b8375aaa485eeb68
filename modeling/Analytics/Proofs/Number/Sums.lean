import Analytics.Proofs.Number.Proper

/-!
Sums of counts. A sum of counts is zero, has a full significand, or is infinite, and stays what it is
when zeros are added: a sum does not depend on the zeros among its items.
-/

namespace Analytics.Binary64

inductive IsSum : Binary64 → Prop
  | zero : IsSum zero
  | normal {m : Nat} {e : Int} (normal : IsNormal m e) : IsSum (.finite false m e)
  | infinite : IsSum (.infinite false)

theorem isSum_ofInt (n : Nat) : IsSum (ofInt n) := by
  by_cases none : n = 0
  · subst none
    exact .zero
  · rcases ofInt_natCast none with ⟨m, e, normal, number⟩ | number
    · rw [number]
      exact .normal normal
    · rw [number]
      exact .infinite

theorem add_comm (x y : Binary64) : x.add y = y.add x := by
  cases x with
  | nan => cases y <;> rfl
  | infinite s =>
    cases y with
    | infinite t => cases s <;> cases t <;> rfl
    | _ => rfl
  | finite s m e =>
    cases y with
    | finite t n f => simp only [add, min_comm e f, Int.add_comm, Bool.and_comm]
    | _ => rfl

theorem add_normal {m n : Nat} {e f : Int} (left : IsNormal m e) :
    ∃ total, leastNormal ≤ total ∧
      add (.finite false m e) (.finite false n f) = round false (magnitude total (min e f)) := by
  have grown : m * 1 ≤ m * twoPow (e - min e f).toNat :=
    Nat.mul_le_mul_left m (Nat.two_pow_pos _)
  have least : leastNormal ≤ m * twoPow (e - min e f).toNat + n * twoPow (f - min e f).toNat := by
    have own := left.least
    omega
  refine ⟨_, least, ?_⟩
  have sum : multiple false m (e - min e f).toNat + multiple false n (f - min e f).toNat
      = ((m * twoPow (e - min e f).toNat + n * twoPow (f - min e f).toNat : Nat) : Int) :=
    (Int.natCast_add _ _).symm
  generalize m * twoPow (e - min e f).toNat + n * twoPow (f - min e f).toNat = total at least sum
  have some : (total : Int) ≠ 0 := by
    rw [leastNormal_eq] at least
    omega
  have sign : decide ((total : Int) < 0) = false := decide_eq_false (by omega)
  simp only [add, sum, if_neg some, sign, Int.natAbs_natCast]

theorem IsSum.add {x y : Binary64} (left : IsSum x) (right : IsSum y) : IsSum (x.add y) := by
  cases left with
  | zero =>
    cases right with
    | zero => exact .zero
    | normal normal =>
      rw [zero_add_normal normal]
      exact .normal normal
    | infinite => exact .infinite
  | @normal m e normal =>
    cases right with
    | zero =>
      rw [add_comm, zero_add_normal normal]
      exact .normal normal
    | @normal n f other =>
      obtain ⟨total, least, sum⟩ := add_normal normal
      have some : total ≠ 0 := Nat.pos_iff_ne_zero.mp (Nat.lt_of_lt_of_le (by decide) least)
      have log : 52 ≤ total.log2 := (Nat.le_log2 some).mpr least
      have small : leastExponent ≤ total.log2 + min e f - 52 := by
        have low := le_min normal.small other.small
        omega
      rw [sum]
      rcases round_magnitude some small with ⟨m, e, normal, number⟩ | number
      · rw [number]
        exact .normal normal
      · rw [number]
        exact .infinite
    | infinite => exact .infinite
  | infinite => cases right <;> exact .infinite

theorem IsSum.add_zero {x : Binary64} (sum : IsSum x) : x.add Binary64.zero = x := by
  rw [add_comm]
  cases sum with
  | zero => rfl
  | normal normal => exact zero_add_normal normal
  | infinite => rfl

/-- Lists of numbers that are equal but for zeros in the second one. -/
inductive Padded : List Binary64 → List Binary64 → Prop
  | nil : Padded [] []
  | keep {xs ys : List Binary64} (x : Binary64) (rest : Padded xs ys) : Padded (x :: xs) (x :: ys)
  | skip {xs ys : List Binary64} (rest : Padded xs ys) : Padded xs (zero :: ys)

namespace Padded

variable {xs xs' ys ys' : List Binary64}

theorem append (first : Padded xs ys) (second : Padded xs' ys') : Padded (xs ++ xs') (ys ++ ys') := by
  induction first with
  | nil => exact second
  | keep x _ ih => exact .keep x ih
  | skip _ ih => exact .skip ih

theorem sum {x : Binary64} (padded : Padded xs ys) (items : ∀ y ∈ ys, IsSum y) (start : IsSum x) :
    xs.foldl add x = ys.foldl add x := by
  induction padded generalizing x with
  | nil => rfl
  | keep y _ ih =>
    obtain ⟨own, later⟩ := List.forall_mem_cons.mp items
    exact ih later (start.add own)
  | skip _ ih =>
    rw [List.foldl_cons, start.add_zero]
    exact ih (List.forall_mem_cons.mp items).2 start

theorem filterMap {α : Type} {as : List α} {kept : α → Bool} {f g : α → Option Binary64}
    (inside : ∀ a ∈ as, kept a = true → f a = g a)
    (outside : ∀ a ∈ as, kept a = false → g a = none ∨ g a = some zero) :
    Padded ((as.filter kept).filterMap f) (as.filterMap g) := by
  induction as with
  | nil => exact .nil
  | cons a rest ih =>
    obtain ⟨own, inside⟩ := List.forall_mem_cons.mp inside
    obtain ⟨other, outside⟩ := List.forall_mem_cons.mp outside
    have tail := ih inside outside
    cases held : kept a with
    | true =>
      rw [List.filter_cons_of_pos held, List.filterMap_cons, List.filterMap_cons, own held]
      cases g a with
      | none => exact tail
      | some x => exact .keep x tail
    | false =>
      rw [List.filter_cons_of_neg (Bool.eq_false_iff.mp held), List.filterMap_cons]
      rcases other held with none | zero
      · rw [none]
        exact tail
      · rw [zero]
        exact .skip tail

end Padded

end Analytics.Binary64
