import Analytics.Proofs.Number.Size
import Analytics.Store.Answer
import Mathlib.Order.Compare

/-!
The order of values in tables. Values compare by their kinds, and within a kind by what they stand
for; so the order is transitive and total, also among keys of groups.
-/

namespace Analytics

open Std (TransCmp ReflCmp OrientedCmp)

namespace Cell

/-- The kinds of values, in their order. -/
def kind : Cell → Nat
  | .null => 0
  | .int _ | .real _ => 1
  | .text _ => 2
  | .blob _ => 3

def reach : Cell → Nat
  | .int _ => 2
  | .real x => x.reach
  | _ => 0

/-- The fraction that a number is. -/
def value : Cell → ℚ
  | .int i => i
  | .real x => x.value
  | _ => 0

def letters : Cell → String
  | .text s => s
  | _ => ""

def bytes : Cell → List UInt8
  | .blob bytes => bytes
  | _ => []

theorem bytesBefore_eq (a b : List UInt8) : bytesBefore a b = compare a b := by
  induction a generalizing b with
  | nil => cases b <;> rfl
  | cons x xs ih =>
    cases b with
    | nil => rfl
    | cons y ys => rw [bytesBefore, ih, List.compare_cons_cons]

/-- The order by kinds, and within a kind by one part after the other. -/
def partsOrder : Cell → Cell → Ordering :=
  compareLex (compareOn kind) (compareLex (compareOn reach) (compareLex (compareOn value)
    (compareLex (compareOn letters) (compareOn bytes))))

theorem partsOrder_def (c d : Cell) : partsOrder c d =
    (compare c.kind d.kind).then ((compare c.reach d.reach).then ((compare c.value d.value).then
      ((compare c.letters d.letters).then (compare c.bytes d.bytes)))) := rfl

theorem partsOrder_numbers {c d : Cell} (left : c.kind = 1) (right : d.kind = 1) :
    partsOrder c d = (compare c.reach d.reach).then (compare c.value d.value) := by
  have letters {c : Cell} (number : c.kind = 1) : c.letters = "" ∧ c.bytes = [] := by
    cases c <;> first | exact ⟨rfl, rfl⟩ | cases number
  rw [partsOrder_def, left, right, (letters left).1, (letters left).2, (letters right).1,
    (letters right).2]
  exact congrArg (compare c.reach d.reach).then Ordering.then_eq

theorem order_eq (c d : Cell) : order c d = partsOrder c d := by
  cases c with
  | null => cases d <;> rfl
  | int i =>
    cases d with
    | int j =>
      rw [partsOrder_numbers rfl rfl]
      exact (Binary64.compare_whole i j).symm
    | real y =>
      rw [partsOrder_numbers rfl rfl]
      exact Binary64.compareInt_value i y
    | _ => rfl
  | real x =>
    cases d with
    | int j =>
      rw [partsOrder_numbers rfl rfl, order, Binary64.compareInt_value, Ordering.swap_then,
        ← OrientedCmp.eq_swap, ← OrientedCmp.eq_swap]
      rfl
    | real y =>
      rw [partsOrder_numbers rfl rfl]
      exact Binary64.compare_value x y
    | _ => rfl
  | text s =>
    cases d with
    | text t => exact Ordering.then_eq.symm
    | _ => rfl
  | blob a =>
    cases d with
    | blob b => exact bytesBefore_eq a b
    | _ => rfl

instance : TransCmp order := by
  have same : order = partsOrder := funext fun c => funext fun d => order_eq c d
  rw [same]
  exact inferInstanceAs (TransCmp (compareLex (compareOn kind) (compareLex (compareOn reach)
    (compareLex (compareOn value) (compareLex (compareOn letters) (compareOn bytes))))))

theorem same_self (c : Cell) : same c c = true := decide_eq_true ReflCmp.compare_self

theorem same_comm (c d : Cell) : same c d = same d c := by
  rw [Bool.eq_iff_iff, same, same, decide_eq_true_iff, decide_eq_true_iff]
  exact OrientedCmp.eq_comm

theorem order_trans {c d e : Cell} (first : order c d ≠ .gt) (second : order d e ≠ .gt) :
    order c e ≠ .gt := by
  have both : (order c e).isLE := TransCmp.isLE_trans (Ordering.isLE_iff_ne_gt.mpr first)
    (Ordering.isLE_iff_ne_gt.mpr second)
  exact Ordering.isLE_iff_ne_gt.mp both

theorem order_total (c d : Cell) : order c d ≠ .gt ∨ order d c ≠ .gt := by
  have swap : order d c = (order c d).swap := OrientedCmp.eq_swap
  rw [swap]
  cases order c d <;> decide

end Cell

def sameKey (k key : List Cell) : Bool :=
  k.length = key.length && (k.zip key).all fun (x, y) => Cell.same x y

def keyLe (k key : List Cell) : Bool := (List.compareLex Cell.order k key).isLE

theorem sameKey_cons (c d : Cell) (k key : List Cell) :
    sameKey (c :: k) (d :: key) = (Cell.same c d && sameKey k key) := by
  unfold sameKey
  simp only [List.length_cons, Nat.add_right_cancel_iff, List.zip_cons_cons, List.all_cons]
  exact Bool.and_left_comm _ _ _

theorem sameKey_iff (k key : List Cell) :
    sameKey k key = true ↔ List.compareLex Cell.order k key = .eq := by
  induction k generalizing key with
  | nil => cases key <;> simp [sameKey, List.compareLex]
  | cons c rest ih =>
    cases key with
    | nil => simp [sameKey, List.compareLex]
    | cons d others =>
      rw [sameKey_cons, Bool.and_eq_true, ih, List.compareLex_cons_cons, Ordering.then_eq_eq]
      exact and_congr_left' decide_eq_true_iff

theorem sameKey_self (k : List Cell) : sameKey k k = true :=
  (sameKey_iff k k).mpr ReflCmp.compare_self

theorem keyLe_trans (k l m : List Cell) (first : keyLe k l = true) (second : keyLe l m = true) :
    keyLe k m = true := by
  have both : (List.compareLex Cell.order k m).isLE := TransCmp.isLE_trans first second
  exact both

theorem keyLe_total (k l : List Cell) : (keyLe k l || keyLe l k) = true := by
  have swap : List.compareLex Cell.order l k = (List.compareLex Cell.order k l).swap :=
    OrientedCmp.eq_swap
  unfold keyLe
  rw [swap]
  cases List.compareLex Cell.order k l <;> rfl

theorem keyLe_antisymm {k l : List Cell} (first : keyLe k l = true) (second : keyLe l k = true) :
    sameKey k l = true :=
  (sameKey_iff k l).mpr (OrientedCmp.isLE_antisymm first second)

end Analytics
