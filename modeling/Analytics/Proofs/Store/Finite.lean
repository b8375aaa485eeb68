import Analytics.Proofs.Store.Order

/-!
Comparing numbers in columns. A column that keeps a number compares it by size.
-/

namespace Analytics

theorem Truth.ofBool_holds (b : Bool) : (Truth.ofBool b).holds = b := by cases b <;> rfl

theorem Truth.and_holds (s t : Truth) : (s.and t).holds = (s.holds && t.holds) := by
  cases s <;> cases t <;> rfl

namespace Cell

/-- A number that has a size. -/
def IsFinite (c : Cell) : Prop := c.kind = 1 ∧ c.reach = 2

theorem IsFinite.isNull_eq {c : Cell} (finite : c.IsFinite) : c.isNull = false := by
  cases c <;> first | rfl | cases finite.1

theorem IsFinite.order_int {c : Cell} (finite : c.IsFinite) (i : Int) :
    c.order (.int i) = compare c.value (i : ℚ) := by
  rw [order_eq, partsOrder_numbers finite.1 rfl, finite.2]
  exact Ordering.eq_then

theorem IsFinite.compared_eq {a : Affinity} {c : Cell} (finite : c.IsFinite)
    (kept : c.kept a = c) : c.compared a = c ∧ ∀ i : Int, (Cell.int i).compared a = .int i := by
  cases a with
  | text =>
    -- A column of texts would have kept the number as a text.
    cases c with
    | int => cases kept
    | real => cases kept
    | _ => cases finite.1
  | _ =>
    cases c with
    | int => exact ⟨rfl, fun _ => rfl⟩
    | real => exact ⟨rfl, fun _ => rfl⟩
    | _ => cases finite.1

theorem IsFinite.compareCells_int {a : Affinity} {c : Cell} (finite : c.IsFinite)
    (kept : c.kept a = c) (op : Comparison) (i : Int) :
    (compareCells op a c (.int i)).holds = op.holds (compare c.value (i : ℚ)) := by
  obtain ⟨left, right⟩ := finite.compared_eq kept
  rw [compareCells, finite.isNull_eq, left, right, finite.order_int]
  exact Truth.ofBool_holds _

end Cell

end Analytics
