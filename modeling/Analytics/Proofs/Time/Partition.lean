import Analytics.Proofs.Time.Windows

/-!
Local time in buckets. Every reading is in one bucket, from the start that truncation gives it up
to where the next bucket begins, and the readings of a bucket are those of its label. Main
statement: this holds at every unit for all readings of the years that are kept; behind the last
bucket that has a next one there is only one more.
-/

namespace Analytics

namespace WallTime

variable {t u : WallTime}

theorem lt_iff_not_le : t < u ↔ ¬ u ≤ t := by
  have less : t < u ↔ t.seconds < u.seconds ∨ t.seconds = u.seconds ∧ t.nanos < u.nanos := Iff.rfl
  have most : u ≤ t ↔ u.seconds < t.seconds ∨ u.seconds = t.seconds ∧ u.nanos ≤ t.nanos := Iff.rfl
  rw [less, most]
  omega

theorem seconds_le_of_le (le : t ≤ u) : t.seconds ≤ u.seconds := by
  have order : t.seconds < u.seconds ∨ t.seconds = u.seconds ∧ t.nanos ≤ u.nanos := le
  omega

end WallTime

namespace TimeUnit

variable {unit : TimeUnit} {c d t u : WallTime}

theorem IsStart.lt_iff (start : unit.IsStart c) : t < c ↔ t.seconds < c.seconds := by
  rw [WallTime.lt_iff_not_le, start.le_iff, not_le]

theorem truncate_eq_iff_ordinal (unit : TimeUnit) (t u : WallTime) :
    unit.truncate t = unit.truncate u ↔ unit.ordinal t = unit.ordinal u := by
  constructor
  · intro same
    rw [← unit.ordinal_truncate t, same, unit.ordinal_truncate]
  · intro same
    refine (unit.truncate_start t).eq_of_ordinal (unit.truncate_start u) ?_
    rw [unit.ordinal_truncate, same, unit.ordinal_truncate]

theorem truncate_mono (unit : TimeUnit) (later : t ≤ u) : unit.truncate t ≤ unit.truncate u := by
  have own := unit.truncate_start t
  rw [own.le_iff, own.le_iff_ordinal, unit.ordinal_truncate, unit.ordinal_truncate]
  exact unit.ordinal_mono (WallTime.seconds_le_of_le later)

theorem IsStart.truncate_eq_iff (start : unit.IsStart c) :
    unit.truncate t = c ↔ c ≤ t ∧ t < unit.next c := by
  obtain ⟨next, number⟩ := start.next_start
  rw [start.le_iff, next.lt_iff]
  constructor
  · rintro rfl
    refine ⟨unit.truncate_le t, ?_⟩
    rw [← not_le, next.le_iff_ordinal, number, unit.ordinal_truncate]
    omega
  · rintro ⟨from_, before⟩
    exact start.truncate_eq from_ before

theorem step_eq_some : unit.step c = some d ↔ (unit.next c).inRange = true ∧ unit.next c = d := by
  rw [step, Option.ite_none_right_eq_some, Option.some.injEq]

theorem IsStart.lt_next_of_last (start : unit.IsStart c) (kept : c.inRange = true)
    (last : unit.step c = none) (within : t.inRange = true) : t < unit.next c := by
  have beyond : ¬ (unit.next c).inRange = true := by
    intro inside
    rw [step, if_pos inside] at last
    cases last
  have later := start.lt_next
  rw [start.next_start.1.lt_iff]
  simp only [WallTime.inRange, Instant.inRange, Bool.and_eq_true, decide_eq_true_eq]
    at kept within beyond
  omega

/-- A reading is truncated once and for all, to a start that is not behind it, in the same bucket
by its label; later readings to the same start or a later one. Where there is a next bucket it
begins behind the reading, and what lies in between are the readings that are truncated alike;
where there is none, all readings from the start on are. -/
theorem buckets_partition (unit : TimeUnit) {x : WallTime} (kept : x.inRange = true) :
    (unit.truncate x).inRange = true ∧
    unit.truncate (unit.truncate x) = unit.truncate x ∧
    unit.truncate x ≤ x ∧
    unit.label (unit.truncate x) = unit.label x ∧
    (∀ y, x ≤ y → unit.truncate x ≤ unit.truncate y) ∧
    (∀ y, unit.label x = unit.label y ↔ unit.truncate x = unit.truncate y) ∧
    (∀ next, unit.step (unit.truncate x) = some next → x < next ∧
      ∀ y, unit.truncate y = unit.truncate x ↔ unit.truncate x ≤ y ∧ y < next) ∧
    (unit.step (unit.truncate x) = none → ∀ y, y.inRange = true →
      (unit.truncate y = unit.truncate x ↔ unit.truncate x ≤ y)) := by
  have start := unit.truncate_start x
  have inside := start.truncate_eq_iff.mp rfl
  refine ⟨unit.truncate_inRange kept, start, inside.1, unit.label_truncate x,
    fun y => unit.truncate_mono, fun y => ?_, fun next made => ?_, fun last y within => ?_⟩
  · rw [unit.label_eq_iff, unit.truncate_eq_iff_ordinal]
  · obtain ⟨-, rfl⟩ := step_eq_some.mp made
    exact ⟨inside.2, fun y => start.truncate_eq_iff⟩
  · have before := start.lt_next_of_last (unit.truncate_inRange kept) last within
    rw [start.truncate_eq_iff, and_iff_left before]

/-- Half a second into the leap second at the end of 2016, and the last nanosecond of the years
that are kept, which is in a bucket without a next one. -/
theorem buckets_partition_leap :
    (⟨1483228799, 1500000000⟩ : WallTime).inRange = true ∧
    truncate .month ⟨1483228799, 1500000000⟩ = ⟨1480550400, 0⟩ ∧
    step .month ⟨1480550400, 0⟩ = some ⟨1483228800, 0⟩ ∧
    (⟨1483228799, 1500000000⟩ : WallTime) < ⟨1483228800, 0⟩ ∧
    (⟨8210266876799, 999999999⟩ : WallTime).inRange = true ∧
    truncate .year ⟨8210266876799, 999999999⟩ = ⟨8210235340800, 0⟩ ∧
    step .year ⟨8210235340800, 0⟩ = none ∧
    truncate .year ⟨8210235340800, 7⟩ = truncate .year ⟨8210266876799, 999999999⟩ := by
  have kept : (⟨1483228799, 1500000000⟩ : WallTime).inRange = true := by decide +kernel
  have kept' : (⟨8210266876799, 999999999⟩ : WallTime).inRange = true := by decide +kernel
  have start : truncate .month ⟨1483228799, 1500000000⟩ = ⟨1480550400, 0⟩ := by decide +kernel
  have start' : truncate .year ⟨8210266876799, 999999999⟩ = ⟨8210235340800, 0⟩ := by decide +kernel
  have made : step .month ⟨1480550400, 0⟩ = some ⟨1483228800, 0⟩ := by decide +kernel
  have last : step .year ⟨8210235340800, 0⟩ = none := by decide +kernel
  obtain ⟨-, -, -, -, -, -, next, -⟩ := buckets_partition .month kept
  obtain ⟨-, -, -, -, -, -, -, end_⟩ := buckets_partition .year kept'
  exact ⟨kept, start, made, (next _ (start ▸ made)).1, kept', start', last,
    (end_ (start' ▸ last) ⟨8210235340800, 7⟩ (by decide +kernel)).mpr (start' ▸ by decide)⟩

end TimeUnit

end Analytics
