import Analytics.Proofs.Query.Ranges

/-!
Labels of a store without zones. It shifts every time by the offset of the window's start, so a zone of
one offset has its own labels there, from stored seconds, milliseconds or texts. The one exception are
milliseconds before 1970: whole seconds are taken of them toward zero, which can be the next bucket.
-/

namespace Analytics

theorem Clock.tdiv_thousand (count : Int) :
    count.tdiv 1000 = count / 1000 + if count < 0 ∧ count % 1000 ≠ 0 then 1 else 0 := by
  have positive : Int.sign 1000 = 1 := rfl
  rw [Int.tdiv_eq_ediv, positive]
  split <;> split <;> omega

/-- What a time column holds for an instant: its whole seconds, its milliseconds, or a text that the
store reads as them and shows. -/
inductive TimestampEncoding.Stores : TimestampEncoding → Cell → Instant → Prop
  | seconds (count : Int) : Stores .timestamp (.int count) ⟨count, 0⟩
  | millis (count : Int) :
      Stores .timestampMs (.int count) ⟨count / 1000, (count % 1000).toNat * 1000000⟩
  | text {s : String} {count : Int} (reads : Clock.Reads (.text s) count) :
      Stores .datetime (.text s) ⟨count / 1000, (count % 1000).toNat * 1000000⟩

namespace Window

structure HasFixedOffset (w : Window) : Prop where
  early : (WallTime.ofDate ⟨1, 1, 1⟩).seconds ≤ w.start.seconds
  late : w.finish.seconds ≤ (WallTime.ofDate ⟨9999, 1, 1⟩).seconds
  onClock : w.start.OnClock ∧ w.finish.OnClock
  steady : ∀ t, w.start ≤ t → t < w.finish →
    w.zone.offsetAt t.seconds = w.zone.offsetAt w.start.seconds
  wholeMinutes : w.zone.offsetAt w.start.seconds % 60 = 0

/-- Whether an instant is in the last second of a bucket, and stored as milliseconds that are rounded
up to the start of the next one. -/
def RoundsOver (w : Window) (encoding : TimestampEncoding) (t : Instant) : Prop :=
  (encoding = .timestampMs ∧ t.seconds < 0 ∧ t.nanos ≠ 0) ∧
    w.unit.IsStart ⟨(w.zone.wallTime t).seconds + 1, 0⟩

namespace HasFixedOffset

variable {w : Window}

theorem bounds (fixed : w.HasFixedOffset) :
    -62135596800 ≤ w.start.seconds ∧ w.finish.seconds ≤ 253370764800 := by
  have first : (WallTime.ofDate ⟨1, 1, 1⟩).seconds = -62135596800 := by decide
  have last : (WallTime.ofDate ⟨9999, 1, 1⟩).seconds = 253370764800 := by decide
  exact ⟨first ▸ fixed.early, last ▸ fixed.late⟩

theorem steady_second (fixed : w.HasFixedOffset) {s : Int} (touches : w.Touches s) :
    w.zone.offsetAt s = w.zone.offsetAt w.start.seconds :=
  touches.steady fixed.steady

theorem utc_years (fixed : w.HasFixedOffset) :
    w.start.utc.date.HasPlainYear ∧ w.finish.utc.date.HasPlainYear := by
  obtain ⟨first, last⟩ := fixed.bounds
  have order := Instant.le_iff.mp w.ordered
  constructor <;> refine Date.plain_iff.mpr ?_ <;>
    (simp only [WallTime.day, Instant.utc, Instant.toWall]; omega)

end HasFixedOffset

end Window

namespace TimestampEncoding.Stores

variable {κ : Type} {column : κ} {w : Window} {v : RowView κ} {encoding : TimestampEncoding}
  {c : Cell} {t : Instant}

theorem dateTime {u : WallTime} (plain : u.date.HasPlainYear) (within : u.IsPlain) :
    datetime.Stores (.text u.dateTimeText) ⟨u.seconds, 0⟩ := by
  have stores := Stores.text (Clock.Reads.of_plain plain within)
  rwa [Int.mul_ediv_cancel _ (by decide), Int.mul_emod_left] at stores

theorem ne_date (stores : encoding.Stores c t) : encoding ≠ .date := by
  rintro rfl
  cases stores

theorem touches (stores : encoding.Stores (v.cell column) t) (fixed : w.HasFixedOffset)
    (kept : (v.cell column).kept (v.affinity column) = v.cell column)
    (noLeap : encoding = .timestampMs → w.finish.nanos ≤ nanosPerSecond)
    (accepted : ((TimeRange.predicate column encoding w).eval v).holds = true) :
    w.Touches t.seconds := by
  have holds {i : Int} (whole : v.cell column = .int i) : v.HoldsWhole column := by
    refine ⟨fun text => ?_, .inr ⟨i, whole⟩⟩
    rw [whole, text] at kept
    cases kept
  obtain ⟨startYear, finishYear⟩ := fixed.utc_years
  generalize cell : v.cell column = c at stores
  cases stores with
  | seconds count =>
    obtain ⟨second, whole, touches⟩ := TimeRange.touches_seconds (holds cell) accepted
    cases cell.symm.trans whole
    exact touches
  | millis count =>
    obtain ⟨millis, whole, touches⟩ :=
      TimeRange.touches_millis (holds cell) (noLeap rfl) accepted
    cases cell.symm.trans whole
    exact touches
  | text reads =>
    exact TimeRange.touches_datetime startYear finishYear fixed.onClock (cell ▸ reads) accepted

theorem read (stores : encoding.Stores c t) (plain : t.utc.date.HasPlainYear) :
    ∃ millis, Clock.localTime? encoding 0 c = some millis ∧ millis / 1000
      = t.seconds + if encoding = .timestampMs ∧ t.seconds < 0 ∧ t.nanos ≠ 0 then 1 else 0 := by
  have own : Clock.isValid ((t.seconds + 0) * 1000) = true := Clock.isValid_of_plain plain
  rw [Int.add_zero] at own
  cases stores with
  | seconds count =>
    obtain ⟨-, millis, read, second⟩ := shows_seconds own
    exact ⟨millis, read, by simpa using second⟩
  | millis count =>
    have cut := Clock.tdiv_thousand count
    have valid : Clock.isValid (count.tdiv 1000 * 1000) = true := by
      rw [Clock.isValid_iff] at own ⊢
      dsimp only at own
      split at cut <;> omega
    refine ⟨count.tdiv 1000 * 1000, ?_, ?_⟩
    · rw [Clock.localTime?_millis, Clock.valid?, if_pos valid]
      exact Clock.later?_zero valid
    · rw [Int.mul_ediv_cancel _ (by decide), cut]
      simp only [true_and]
      split <;> split <;> omega
  | text reads =>
    obtain ⟨-, millis, read, second⟩ := shows_datetime ⟨_, reads, rfl⟩
    exact ⟨millis, read, by simpa using second⟩

end TimestampEncoding.Stores

namespace BucketLabel

variable {κ : Type}

/-- In a zone of one offset the label of what is stored for an instant is that of its local time, but
for milliseconds that are rounded up to the next bucket: they have the label of that one. -/
theorem ofWindow_fixed (w : Window) (fixed : w.HasFixedOffset)
    (known : Zone.named? w.zone.name = some w.zone) (v : RowView κ) (column : κ)
    (encoding : TimestampEncoding) (t : Instant)
    (kept : (v.cell column).kept (v.affinity column) = v.cell column)
    (stores : encoding.Stores (v.cell column) t)
    (noLeap : encoding = .timestampMs → w.finish.nanos ≤ nanosPerSecond)
    (accepted : ((TimeRange.predicate column encoding w).eval v).holds = true) :
    (¬ w.RoundsOver encoding t →
      (ofWindow column encoding w).eval v = .text (w.unit.label (w.zone.wallTime t))) ∧
    (w.RoundsOver encoding t →
      (ofWindow column encoding w).eval v ≠ .text (w.unit.label (w.zone.wallTime t)) ∧
      (ofWindow column encoding w).eval v
        = .text (w.unit.label ⟨(w.zone.wallTime t).seconds + 1, 0⟩)) := by
  have touches := stores.touches fixed kept noLeap accepted
  have offset := fixed.steady_second touches
  have near := Zone.named_staysWithinDay known t.seconds
  obtain ⟨from_, upTo⟩ := touches
  obtain ⟨first, last⟩ := fixed.bounds
  have plain : t.utc.date.HasPlainYear := by
    refine Date.plain_iff.mpr ?_
    simp only [WallTime.day, Instant.utc, Instant.toWall]
    omega
  obtain ⟨millis, read, second⟩ := stores.read plain
  -- Inside a second before 1970, division toward zero is one second ahead.
  have shift : millis / 1000 + w.offsetMinutes * 60 = (w.zone.wallTime t).seconds
      + if encoding = .timestampMs ∧ t.seconds < 0 ∧ t.nanos ≠ 0 then 1 else 0 := by
    rw [second, w.offsetMinutes_eq fixed.wholeMinutes, ← offset, Zone.wallTime, Instant.toWall]
    dsimp only
    omega
  have plain' : (⟨millis / 1000 + w.offsetMinutes * 60, 0⟩ : WallTime).date.HasPlainYear := by
    refine Date.plain_iff.mpr ?_
    simp only [shift, WallTime.day, Zone.wallTime, Instant.toWall]
    split <;> omega
  have shown : (ofWindow column encoding w).eval v
      = .text (w.unit.label ⟨millis / 1000 + w.offsetMinutes * 60, 0⟩) := by
    have shifted := Clock.label_shift stores.ne_date read w.unit w.offsetMinutes
    rwa [if_pos (Clock.isValid_of_plain plain'), Clock.labelText_plain _ plain'] at shifted
  have next := w.unit.isStart_iff_label (w.zone.wallTime t)
  rw [shown, shift, Window.RoundsOver]
  by_cases up : encoding = .timestampMs ∧ t.seconds < 0 ∧ t.nanos ≠ 0
  · rw [if_pos up]
    constructor
    · intro inside
      have same := not_not.mp (mt next.mpr fun start => inside ⟨up, start⟩)
      rw [same]
    · rintro ⟨-, start⟩
      exact ⟨fun same => next.mp start (Cell.text.inj same), rfl⟩
  · rw [if_neg up, Int.add_zero, w.unit.label_second]
    exact ⟨fun _ => rfl, fun rounds => absurd rounds.1 up⟩

def sampleTurn : Window := ⟨⟨-60, 0⟩, ⟨60, 0⟩, .minute, DateSource.guyana, by decide⟩

def sampleMillis (count : Int) : RowView String := ⟨fun _ => .int count, fun _ => .integer⟩

def sampleText : RowView String :=
  ⟨fun _ => .text (WallTime.dateTimeText ⟨59, 0⟩), fun _ => .text⟩

theorem sampleTurn_fixed : sampleTurn.HasFixedOffset where
  early := by decide
  late := by decide
  onClock := by decide
  steady t from_ inside := by
    have touches := Window.touches_of_inside from_ inside
    exact Zone.offsetAt_eq (by decide) touches.1 (touches.le_last rfl)
  wholeMinutes := by decide

theorem ofWindow_fixed_sample :
    (ofWindow "created_at" .timestampMs sampleTurn).eval (sampleMillis (-1500))
        = .text "1969-12-31 20:14:00" ∧
      (ofWindow "created_at" .datetime sampleTurn).eval sampleText = .text "1969-12-31 20:15:00" := by
  have inside : ¬ sampleTurn.RoundsOver .timestampMs ⟨-2, 500000000⟩ := by
    rintro ⟨-, start⟩
    exact absurd start (by decide +kernel)
  have millis := (ofWindow_fixed sampleTurn sampleTurn_fixed DateSource.guyana_named
    (sampleMillis (-1500)) "created_at" .timestampMs ⟨-2, 500000000⟩ (by decide) (.millis (-1500))
    (fun _ => by decide) (by decide +kernel)).1 inside
  have text := (ofWindow_fixed sampleTurn sampleTurn_fixed DateSource.guyana_named sampleText
    "created_at" .datetime ⟨59, 0⟩ rfl (.dateTime (by decide +kernel) (WallTime.isPlain_whole 59)) nofun
    (by decide +kernel)).1 fun rounds => nomatch rounds.1.1
  rw [millis, text]
  decide +kernel

/-- The last millisecond before 1970 has the label of the minute behind it. -/
theorem ofWindow_rounds_over : ¬ ∀ (w : Window), w.HasFixedOffset →
    Zone.named? w.zone.name = some w.zone → ∀ (v : RowView String) (column : String)
      (encoding : TimestampEncoding) (t : Instant),
      (v.cell column).kept (v.affinity column) = v.cell column →
      encoding.Stores (v.cell column) t →
      ((TimeRange.predicate column encoding w).eval v).holds = true →
      (ofWindow column encoding w).eval v = .text (w.unit.label (w.zone.wallTime t)) := by
  intro right
  have last := right sampleTurn sampleTurn_fixed DateSource.guyana_named (sampleMillis (-1))
    "created_at" .timestampMs ⟨-1, 999000000⟩ (by decide) (.millis (-1)) (by decide +kernel)
  exact absurd last (by decide +kernel)

end BucketLabel

end Analytics
