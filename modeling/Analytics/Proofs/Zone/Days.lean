import Analytics.Time.Window
import Mathlib.Order.Basic

/-!
Where local days begin. A change of the clocks can show a local midnight twice; a second begins a
day where it parts the dates for good, and a zone's changes tell whether it does.
-/

namespace Analytics.Zone

def BeginsDay (z : Zone) (second day : Int) : Prop :=
  ∀ s : Int, s < second ↔ z.localDay ⟨s, 0⟩ < day

theorem localDay_lt_iff (z : Zone) (s day : Int) :
    z.localDay ⟨s, 0⟩ < day ↔ s + z.offsetAt s < day * 86400 := by
  simp only [localDay, WallTime.day, wallTime, Instant.toWall]
  omega

/-- Whether clocks come to a reading for good at a second, by the changes from some change on: those
by that second come before the reading is shown, and those after it leave it behind. The offset
`current` is in force since `since`. -/
def passesFrom (second reading : Int) (since : Option Int) (current : Int) :
    List Transition → Bool
  | [] => reading ≤ second + current && (since = some second || second + current ≤ reading)
  | t :: rest =>
    if t.at_ ≤ second then
      t.at_ + current ≤ reading && passesFrom second reading (some t.at_) t.offset rest
    else
      reading ≤ second + current && (since = some second || second + current ≤ reading) &&
        (t :: rest).all fun t => reading ≤ t.at_ + t.offset

theorem le_offsetFrom {reading low s current : Int} (later : low ≤ s)
    (passed : reading ≤ low + current) {ts : List Transition}
    (behind : ∀ t ∈ ts, reading ≤ t.at_ + t.offset) : reading ≤ s + offsetFrom current s ts := by
  induction ts generalizing low current with
  | nil => rw [offsetFrom]; omega
  | cons t rest ih =>
    obtain ⟨first, others⟩ := List.forall_mem_cons.mp behind
    rw [offsetFrom]
    split
    case isTrue reached => exact ih reached first others
    case isFalse => omega

theorem offsetFrom_lt_iff {second reading s current : Int} {since : Option Int}
    (begun : ∀ a ∈ since, a ≤ s) {ts : List Transition}
    (passes : passesFrom second reading since current ts = true) :
    s < second ↔ s + offsetFrom current s ts < reading := by
  -- While the offset `current` is in force: either it came at the second itself, or the clocks show
  -- the reading at that second.
  have steady (arrived : reading ≤ second + current)
      (exact : since = some second ∨ second + current ≤ reading) :
      s < second ↔ s + current < reading := by
    rcases exact with rfl | exact
    · have := begun second rfl
      omega
    · omega
  induction ts generalizing since current with
  | nil =>
    simp only [passesFrom, Bool.and_eq_true, Bool.or_eq_true, decide_eq_true_eq] at passes
    exact steady passes.1 passes.2
  | cons t rest ih =>
    rw [passesFrom] at passes
    rw [offsetFrom]
    split at passes
    case isTrue early =>
      simp only [Bool.and_eq_true, decide_eq_true_eq] at passes
      split
      case isTrue reached =>
        have begun : ∀ a ∈ some t.at_, a ≤ s := by simpa using reached
        refine ih begun passes.2 fun arrived exact => ?_
        rcases exact with same | exact
        · cases same
          omega
        · omega
      case isFalse => omega
    case isFalse late =>
      simp only [Bool.and_eq_true, Bool.or_eq_true, decide_eq_true_eq, List.all_eq_true] at passes
      obtain ⟨⟨arrived, exact⟩, behind⟩ := passes
      split
      case isTrue reached =>
        obtain ⟨first, others⟩ := List.forall_mem_cons.mp behind
        have := le_offsetFrom reached first others
        omega
      case isFalse => exact steady arrived exact

def beginsDay (z : Zone) (second day : Int) : Bool :=
  passesFrom second (day * 86400) none z.initial z.transitions

theorem BeginsDay.of_changes {z : Zone} {second day : Int}
    (begins : z.beginsDay second day = true) : z.BeginsDay second day := fun s => by
  rw [localDay_lt_iff]
  exact offsetFrom_lt_iff (by simp) begins

end Analytics.Zone
