import Analytics.Proofs.Time.Windows
import Analytics.Proofs.Zone.Offsets

/-!
Windows in which clocks are set back. Labels are listed from what clocks show at the start of a window
up to what they show in its last millisecond; where they show something else in between, an instant of
the window has no label in the list.
-/

namespace Analytics.Window

variable {w : Window} {labels : List String} {limit : Nat}

/-- Whether clocks show nothing before their reading at the start of a window, and nothing after their
reading in its last millisecond, as long as it lasts. -/
def ShowsBetween (w : Window) : Prop :=
  ∀ s : Int, w.start.seconds ≤ s → s ≤ w.finish.beforeMilli.seconds →
    w.start.seconds + w.zone.offsetAt w.start.seconds ≤ s + w.zone.offsetAt s ∧
    s + w.zone.offsetAt s ≤ w.lastReading.seconds

theorem ShowsBetween.of_calm_ends (near : w.zone.StaysWithinDay)
    (calm : ∀ c ∈ w.zone.transitions,
      (c.at_ ≤ w.start.seconds ∨ w.start.seconds + 172800 < c.at_) ∧
      (c.at_ ≤ w.finish.beforeMilli.seconds - 172800 ∨ w.finish.beforeMilli.seconds < c.at_)) :
    w.ShowsBetween := by
  have first {s : Int} := Zone.offsetAt_eq (s := s) fun c member => (calm c member).1
  have last {s : Int} := Zone.offsetAt_eq (s := s) fun c member => (calm c member).2
  intro s from_ upTo
  have own := near s
  have atStart := near w.start.seconds
  have atEnd := near w.finish.beforeMilli.seconds
  simp only [lastReading, Zone.wallTime, Instant.toWall]
  constructor
  · by_cases soon : s ≤ w.start.seconds + 172800
    · have := first from_ soon
      omega
    · omega
  · by_cases late : w.finish.beforeMilli.seconds - 172800 ≤ s
    · have := last late upTo
      have := last (by omega) (Int.le_refl w.finish.beforeMilli.seconds)
      omega
    · omega

theorem opens_of_inside {t : Instant} (from_ : w.start ≤ t) (inside : t < w.finish) :
    w.start < w.finish := by
  rw [Instant.le_iff] at from_
  rw [Instant.lt_iff] at inside ⊢
  omega

/-- The labels of a window have the label of an instant exactly if its bucket is none before that of
the start and none after that of the last millisecond. So they have the labels of all instants where
clocks show only readings in between. -/
theorem labels_cover (listed : w.labels limit = .ok labels) :
    (∀ t, w.start ≤ t → t < w.finish → (w.unit.label (w.zone.wallTime t) ∈ labels
      ↔ w.unit.ordinal (w.zone.wallTime w.start) ≤ w.unit.ordinal (w.zone.wallTime t) ∧
        w.unit.ordinal (w.zone.wallTime t) ≤ w.unit.ordinal w.lastReading)) ∧
    (w.finish.nanos % 1000000 = 0 → w.ShowsBetween →
      ∀ t, w.start ≤ t → t < w.finish → w.unit.label (w.zone.wallTime t) ∈ labels) := by
  have exact_ (t : Instant) (from_ : w.start ≤ t) (inside : t < w.finish) :
      w.unit.label (w.zone.wallTime t) ∈ labels
        ↔ w.unit.ordinal (w.zone.wallTime w.start) ≤ w.unit.ordinal (w.zone.wallTime t) ∧
          w.unit.ordinal (w.zone.wallTime t) ≤ w.unit.ordinal w.lastReading := by
    have some := start_ne_finish (opens_of_inside from_ inside)
    rw [labels_eq some (keepsYears_of_labels some listed)] at listed
    split at listed
    · cases listed
    · cases listed
      rw [bucketCount, label_mem_labelRun w.firstBucket_start, firstBucket, w.unit.ordinal_truncate]
  refine ⟨exact_, fun whole between t from_ inside => (exact_ t from_ inside).mpr ?_⟩
  have touches := touches_of_inside from_ inside
  obtain ⟨low, high⟩ := between t.seconds touches.1 (touches.le_last whole)
  exact ⟨w.unit.ordinal_mono low, w.unit.ordinal_mono high⟩

def pyongyang : Zone :=
  ⟨"Asia/Pyongyang", 30180,
    [⟨-1948782180, 30600⟩, ⟨-1830414600, 32400⟩, ⟨1439564400, 30600⟩, ⟨1525446000, 32400⟩]⟩

theorem pyongyang_named : Zone.named? "Asia/Pyongyang" = some pyongyang := by decide +kernel

def sampleSummer : Window := ⟨⟨1438354800, 0⟩, ⟨1443627000, 0⟩, .month, pyongyang, by decide⟩

def sampleSetback : Window := ⟨⟨1439563500, 0⟩, ⟨1439565000, 0⟩, .minute, pyongyang, by decide⟩

theorem labels_cover_sample :
    sampleSummer.labels 2 = .ok ["2015-08-01", "2015-09-01"] ∧ sampleSummer.ShowsBetween ∧
    ∀ t, sampleSummer.start ≤ t → t < sampleSummer.finish →
      TimeUnit.label .month (pyongyang.wallTime t) ∈ ["2015-08-01", "2015-09-01"] := by
  have listed : sampleSummer.labels 2 = .ok ["2015-08-01", "2015-09-01"] := by decide +kernel
  have between : sampleSummer.ShowsBetween :=
    .of_calm_ends (Zone.named_staysWithinDay pyongyang_named) (by decide +kernel)
  exact ⟨listed, between, (labels_cover listed).2 rfl between⟩

/-- No label is listed where clocks show less at the end of a window than at its start. -/
theorem labels_miss : ¬ ∀ (w : Window) (limit : Nat) (labels : List String),
    w.start.nanos % 1000000 = 0 → w.finish.nanos % 1000000 = 0 →
    Zone.named? w.zone.name = some w.zone → w.labels limit = .ok labels →
    ∀ t, w.start ≤ t → t < w.finish → w.unit.label (w.zone.wallTime t) ∈ labels := by
  intro covered
  have none : sampleSetback.labels 5000 = .ok [] := by decide +kernel
  exact List.not_mem_nil (covered sampleSetback 5000 [] rfl rfl pyongyang_named none
    sampleSetback.start (by decide) (by decide))

end Analytics.Window
