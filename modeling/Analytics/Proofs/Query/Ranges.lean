import Analytics.Proofs.Query.Dates
import Analytics.Proofs.Store.Views
import Analytics.Proofs.Time.Named
import Analytics.Proofs.Time.Windows
import Analytics.Proofs.Zone.Offsets

/-!
The range of a window against its buckets. A row that the range accepts has the label of a reading
between the start of the first bucket and the last millisecond of the window, whatever its time is
stored as.
-/

namespace Analytics

/-- A window from 1970 up to the year 9999 that is not empty, with bounds of whole milliseconds, at
whose ends the zone has one offset, of whole minutes. -/
structure Window.IsRegular (w : Window) : Prop where
  opens : w.start < w.finish
  since1970 : 0 ≤ w.start.seconds
  before9999 : w.finish.utc.date.year < 9999
  wholeMillis : w.start.nanos % 1000000 = 0 ∧ w.finish.nanos % 1000000 = 0
  onClock : w.start.OnClock ∧ w.finish.OnClock
  steady : w.zone.offsetAt w.finish.beforeMilli.seconds = w.zone.offsetAt w.start.seconds
  wholeMinutes : w.zone.offsetAt w.start.seconds % 60 = 0

def RowView.HoldsWhole {κ : Type} (v : RowView κ) (column : κ) : Prop :=
  v.affinity column ≠ .text ∧ (v.cell column = .null ∨ ∃ i, v.cell column = .int i)

namespace Instant

variable {t : Instant}

theorem OnClock.cases (onClock : t.OnClock) : t.utc.IsPlain ∨ t.utc.second = 60 := by
  rcases onClock with plain | ⟨leap, minute⟩
  · exact .inl plain
  · by_cases plain : t.utc.IsPlain
    · exact .inl plain
    · refine .inr ?_
      have once : t.nanos / nanosPerSecond = 1 := by
        simp only [WallTime.IsPlain, utc, toWall, nanosPerSecond] at *
        omega
      simp only [WallTime.second, WallTime.secondOfDay, utc, toWall, once]
      omega

end Instant

theorem Cell.compareCells_whole {a : Affinity} (number : a ≠ .text) (op : Comparison) (i j : Int) :
    (compareCells op a (.int i) (.int j)).holds = op.holds (compare i j) := by
  have same (i : Int) : (Cell.int i).compared a = .int i := by
    cases a with
    | text => exact absurd rfl number
    | none | numeric | integer | real => rfl
  rw [compareCells, same, same]
  exact Truth.ofBool_holds _

namespace Window

variable {w : Window}

theorem offsetMinutes_eq (whole : w.zone.offsetAt w.start.seconds % 60 = 0) :
    w.offsetMinutes * 60 = w.zone.offsetAt w.start.seconds := by
  rw [offsetMinutes, Int.tdiv_eq_ediv_of_dvd (Int.dvd_of_emod_eq_zero whole)]
  omega

namespace IsRegular

theorem lastInstant_eq (regular : w.IsRegular) : w.lastInstant = w.finish.beforeMilli :=
  if_pos regular.opens

theorem start_le_last (regular : w.IsRegular) :
    w.start.seconds ≤ w.finish.beforeMilli.seconds :=
  (touches_last regular.opens regular.wholeMillis.2).1

theorem wallTime_last (regular : w.IsRegular) :
    (w.zone.wallTime w.finish.beforeMilli).seconds
      = w.finish.beforeMilli.seconds + w.zone.offsetAt w.start.seconds :=
  congrArg (w.finish.beforeMilli.seconds + ·) regular.steady

theorem start_le_finish (regular : w.IsRegular) : w.start.seconds ≤ w.finish.seconds := by
  have opens := Instant.lt_iff.mp regular.opens
  omega

theorem finish_day (regular : w.IsRegular) : w.finish.seconds / 86400 < 2932532 := by
  by_contra late
  have first : (Date.ofDay 2932532).year = 9999 := by decide
  have year := Date.year_le (not_lt.mp late)
  have before := regular.before9999
  rw [w.finish.utc_date] at before
  omega

theorem utc_years (regular : w.IsRegular) :
    w.start.utc.date.HasPlainYear ∧ w.finish.utc.date.HasPlainYear := by
  have := regular.since1970
  have := regular.start_le_finish
  have := regular.finish_day
  constructor <;> refine Date.plain_iff.mpr ?_ <;>
    (simp only [WallTime.day, Instant.utc, Instant.toWall]; omega)

theorem wall_years (regular : w.IsRegular) (near : w.zone.StaysWithinDay) :
    (w.zone.wallTime w.start).date.HasPlainYear ∧ w.lastReading.date.HasPlainYear := by
  have := regular.since1970
  have := regular.start_le_last
  have := regular.finish_day
  have last : w.lastReading.seconds = _ := regular.wallTime_last
  have near := near w.start.seconds
  have before := Instant.seconds_beforeMilli regular.wholeMillis.2
  have upTo : w.finish.beforeMilli.seconds ≤ w.finish.seconds := by
    rw [before]
    split <;> omega
  constructor <;> refine Date.plain_iff.mpr ?_
  · simp only [WallTime.day, Zone.wallTime, Instant.toWall]
    omega
  · rw [WallTime.day, last]
    omega

theorem labels_ok (regular : w.IsRegular) (near : w.zone.StaysWithinDay) {limit : Nat}
    {labels : List String} (listed : w.labels limit = .ok labels) :
    LabelsFrom w.unit w.lastReading w.firstBucket labels := by
  obtain ⟨startYear, lastYear⟩ := regular.wall_years near
  exact Window.labels_ok (start_ne_finish regular.opens) startYear lastYear listed

end IsRegular

end Window

namespace TimeRange

variable {κ : Type} {column : κ} {w : Window} {v : RowView κ}

/-- What a value that the range of a window accepts tells: a second of the window, which the store
shows under every shift. -/
structure Accepts (w : Window) (encoding : TimestampEncoding) (c : Cell) (second : Int) : Prop where
  from_ : w.start.seconds ≤ second
  upTo : second ≤ w.finish.beforeMilli.seconds
  shown : ∀ shift millis, Clock.localTime? encoding shift c = some millis →
    millis / 1000 = second + shift * 60

theorem halfOpen_whole (holds : v.HoldsWhole column) {low high : Int}
    (accepted : ((halfOpen (.column column) (.bound (.int low)) (.bound (.int high))).eval v).holds
      = true) : ∃ i, v.cell column = .int i ∧ low ≤ i ∧ i < high := by
  obtain ⟨number, none | ⟨i, whole⟩⟩ := holds
  · rw [halfOpen_holds] at accepted
    simp only [Predicate.eval, Scalar.eval, none, compareCells, Cell.isNull, Bool.true_or, if_true]
      at accepted
    cases accepted
  · refine ⟨i, whole, ?_⟩
    rw [halfOpen_holds] at accepted
    simpa only [Predicate.eval, Scalar.eval, Scalar.affinity, Bind.toCell, Affinity.common_none,
      whole, Cell.compareCells_whole number, Comparison.holds, Bool.and_eq_true, decide_eq_true_eq,
      ne_eq, compare_lt_iff_lt, not_lt] using accepted

theorem later?_eq_some {found : Option Int} {shift millis : Int}
    (shown : found.bind (Clock.later? shift) = some millis) :
    ∃ before, found = some before ∧ millis = before + shift * 60000 := by
  obtain ⟨before, own, valid⟩ := Option.bind_eq_some_iff.mp shown
  exact ⟨before, own, (Clock.valid?_eq_some.mp valid).2.symm⟩

theorem touches_seconds (holds : v.HoldsWhole column)
    (accepted : ((predicate column .timestamp w).eval v).holds = true) :
    ∃ second, v.cell column = .int second ∧ w.Touches second := by
  obtain ⟨second, whole, low, high⟩ := halfOpen_whole holds accepted
  refine ⟨second, whole, low, ?_⟩
  unfold secondsUp at high
  split at high <;> omega

/-- Milliseconds inside a leap second are those of the second behind it, so a window may end where a
leap second begins, but not inside it. -/
theorem touches_millis (holds : v.HoldsWhole column) (noLeap : w.finish.nanos ≤ nanosPerSecond)
    (accepted : ((predicate column .timestampMs w).eval v).holds = true) :
    ∃ count, v.cell column = .int count ∧ w.Touches (count / 1000) := by
  obtain ⟨count, whole, low, high⟩ := halfOpen_whole holds accepted
  refine ⟨count, whole, ?_⟩
  unfold millisUp at high
  simp only [Instant.toMillis, nanosPerSecond] at low high noLeap
  unfold Window.Touches
  split at high <;> omega

theorem timestamp_leap {t : Instant} (plain : t.utc.date.HasPlainYear) (leap : t.utc.second = 60)
    (op : Comparison) : ((Predicate.compare op (.timestamp (.column column))
      (.timestamp (.bound (.text t.dateTimeText)))).eval v).holds = false := by
  have unread : Clock.dateTime (.text t.dateTimeText) = .null := by
    rw [Instant.dateTimeText, Clock.dateTime_unread (Clock.time?_leap plain leap)]
  simp only [Predicate.eval, Scalar.eval, Bind.toCell, unread, compareCells, Cell.isNull,
    Bool.or_true, if_true]
  rfl

theorem timestamp_accepted {millis : Int} {t : Instant} {op : Comparison}
    (reads : Clock.Reads (v.cell column) millis) (plain : t.utc.date.HasPlainYear)
    (onClock : t.OnClock) (accepted : ((Predicate.compare op (.timestamp (.column column))
      (.timestamp (.bound (.text t.dateTimeText)))).eval v).holds = true) :
    op.holds (compare (millis / 1000) t.seconds) = true := by
  obtain moment | leap := onClock.cases
  · rwa [timestamp_bound reads plain moment] at accepted
  · rw [timestamp_leap plain leap] at accepted
    cases accepted

theorem touches_datetime {millis : Int} (startYear : w.start.utc.date.HasPlainYear)
    (finishYear : w.finish.utc.date.HasPlainYear) (onClock : w.start.OnClock ∧ w.finish.OnClock)
    (reads : Clock.Reads (v.cell column) millis)
    (accepted : ((predicate column .datetime w).eval v).holds = true) : w.Touches (millis / 1000) := by
  rw [predicate, halfOpen_holds, Bool.and_eq_true] at accepted
  have low := timestamp_accepted reads startYear onClock.1 accepted.1
  have high := timestamp_accepted reads finishYear onClock.2 accepted.2
  simp only [Comparison.holds, decide_eq_true_eq, ne_eq, compare_lt_iff_lt, not_lt] at low high
  exact ⟨low, .inl high⟩

theorem accepts_seconds (regular : w.IsRegular) (holds : v.HoldsWhole column)
    (accepted : ((predicate column .timestamp w).eval v).holds = true) :
    ∃ second, Accepts w .timestamp (v.cell column) second := by
  obtain ⟨second, whole, touches⟩ := touches_seconds holds accepted
  refine ⟨second, touches.1, touches.le_last regular.wholeMillis.2, fun shift millis shown => ?_⟩
  rw [whole, Clock.localTime?_seconds] at shown
  obtain ⟨before, own, rfl⟩ := later?_eq_some shown
  obtain ⟨-, rfl⟩ := Clock.valid?_eq_some.mp own
  omega

theorem accepts_millis (regular : w.IsRegular) (holds : v.HoldsWhole column)
    (noLeap : w.finish.nanos ≤ nanosPerSecond)
    (accepted : ((predicate column .timestampMs w).eval v).holds = true) :
    ∃ second, Accepts w .timestampMs (v.cell column) second := by
  obtain ⟨count, whole, touches⟩ := touches_millis holds noLeap accepted
  have since := regular.since1970
  have from_ := touches.1
  refine ⟨count / 1000, from_, touches.le_last regular.wholeMillis.2, fun shift millis shown => ?_⟩
  rw [whole, Clock.localTime?_millis, Int.tdiv_eq_ediv_of_nonneg (by omega)] at shown
  obtain ⟨before, own, rfl⟩ := later?_eq_some shown
  obtain ⟨-, rfl⟩ := Clock.valid?_eq_some.mp own
  omega

theorem timestamp_unread (unread : Clock.time? (v.cell column) = none) :
    ((predicate column .datetime w).eval v).holds = false := by
  simp only [predicate, halfOpen_holds, Predicate.eval, Scalar.eval, Clock.dateTime_unread unread,
    compareCells, Cell.isNull, Bool.true_or, if_true]
  rfl

theorem accepts_datetime (regular : w.IsRegular)
    (shows : Clock.ShowsTime (v.cell column))
    (accepted : ((predicate column .datetime w).eval v).holds = true) :
    ∃ second, Accepts w .datetime (v.cell column) second := by
  obtain ⟨startYear, finishYear⟩ := regular.utc_years
  cases read : Clock.time? (v.cell column) with
  | none =>
    rw [timestamp_unread read] at accepted
    cases accepted
  | some time =>
    have touches := touches_datetime startYear finishYear regular.onClock (shows time read) accepted
    refine ⟨time / 1000, touches.1, touches.le_last regular.wholeMillis.2,
      fun shift millis shown => ?_⟩
    rw [Clock.localTime?_datetime, Clock.moment?_of_time? read] at shown
    obtain ⟨_, ⟨⟩, rfl⟩ := later?_eq_some shown
    omega

end TimeRange

namespace DateSource

variable {κ : Type} {s : DateSource κ} {w : Window} {v : RowView κ}

/-- What has to be known of a row for its label: numbers of a time column are whole, and texts that are
times show them. -/
structure IsTimed (s : DateSource κ) (v : RowView κ) : Prop where
  time : s.encoding ≠ .date
  whole : s.encoding ≠ .datetime → v.HoldsWhole s.column
  shows : s.encoding = .datetime → Clock.ShowsTime (v.cell s.column)

/-- The case that the store does not bucket by the window: milliseconds up to an end inside a leap
second. -/
def AvoidsLeap (s : DateSource κ) (w : Window) : Prop :=
  s.encoding = .timestampMs → w.finish.nanos ≤ nanosPerSecond

theorem accepts_time (regular : w.IsRegular) (timed : s.IsTimed v) (avoids : s.AvoidsLeap w)
    (accepted : ((TimeRange.predicate s.column s.encoding w).eval v).holds = true) :
    ∃ second, TimeRange.Accepts w s.encoding (v.cell s.column) second := by
  obtain ⟨time, holds, shows⟩ := timed
  unfold AvoidsLeap at avoids
  generalize s.encoding = encoding at *
  cases encoding with
  | timestamp => exact TimeRange.accepts_seconds regular (holds nofun) accepted
  | timestampMs => exact TimeRange.accepts_millis regular (holds nofun) (avoids rfl) accepted
  | datetime => exact TimeRange.accepts_datetime regular (shows rfl) accepted
  | date => exact absurd rfl time

theorem label_shown {encoding : TimestampEncoding} {unit : TimeUnit} {shift : Int} {c : Cell}
    {label : String} (shown : Clock.label encoding unit shift c = .text label) :
    ∃ millis, Clock.localTime? encoding shift c = some millis ∧
      label = Clock.labelText unit (Clock.reading millis) := by
  unfold Clock.label Clock.ofOption at shown
  cases read : Clock.localTime? encoding shift c with
  | none =>
    rw [read] at shown
    cases shown
  | some millis =>
    rw [read] at shown
    exact ⟨millis, rfl, (Cell.text.inj shown).symm⟩

theorem label_within_time (regular : w.IsRegular) (timed : s.IsTimed v) (avoids : s.AvoidsLeap w)
    (accepted : ((TimeRange.predicate s.column s.encoding w).eval v).holds = true) {label : String}
    (shown : Clock.label s.encoding w.unit w.offsetMinutes (v.cell s.column) = .text label) :
    ∃ t : WallTime, label = Clock.labelText w.unit t ∧
      (w.unit.truncate (w.zone.wallTime w.start)).seconds ≤ t.seconds ∧
      t.seconds ≤ (w.zone.wallTime w.finish.beforeMilli).seconds := by
  obtain ⟨second, accepts⟩ := accepts_time regular timed avoids accepted
  obtain ⟨millis, read, rfl⟩ := label_shown shown
  have reading := accepts.shown w.offsetMinutes millis read
  rw [Window.offsetMinutes_eq regular.wholeMinutes] at reading
  have from_ := accepts.from_
  have upTo := accepts.upTo
  have start : (w.zone.wallTime w.start).seconds
      = w.start.seconds + w.zone.offsetAt w.start.seconds := rfl
  have cut := w.unit.truncate_le (w.zone.wallTime w.start)
  have last := regular.wallTime_last
  refine ⟨Clock.reading millis, rfl, ?_, ?_⟩ <;>
    (simp only [Clock.reading]; omega)

theorem label_within_dates {dates : κ} (regular : w.IsRegular) (near : w.zone.StaysWithinDay)
    (long : w.unit.isWithinDay = false)
    (accepted : ((TimeRange.predicate dates .date w).eval v).holds = true) {label : String}
    (shown : Clock.label .date w.unit w.offsetMinutes (v.cell dates) = .text label) :
    ∃ t : WallTime, label = Clock.labelText w.unit t ∧
      (w.unit.truncate (w.zone.wallTime w.start)).seconds ≤ t.seconds ∧
      t.seconds ≤ (w.zone.wallTime w.finish.beforeMilli).seconds := by
  obtain ⟨millis, read, rfl⟩ := label_shown shown
  rw [Clock.localTime?_date] at read
  obtain ⟨parts, own, valid⟩ := Option.bind_eq_some_iff.mp read
  obtain ⟨known, rfl⟩ := Clock.valid?_eq_some.mp valid
  obtain ⟨startYear, lastYear⟩ := regular.wall_years near
  generalize shownDay : parts.date.toDay = day at *
  have date : Clock.date (v.cell dates) = .text (Date.ofDay day).text := by
    rw [Clock.date, own, ← shownDay, Date.ofDay_toDay (Clock.shown?_onCalendar own), Clock.ofOption]
  have early : (Date.ofDay day).year ≤ 9999 := by
    have held := Clock.year_le_of_isValid known
    rwa [Clock.date_reading] at held
  have bounds : w.dateBounds = (Date.ofDay (w.zone.wallTime w.start).day,
      Date.ofDay (w.zone.wallTime w.finish.beforeMilli).day) := by
    rw [Window.dateBounds, regular.lastInstant_eq]
    rfl
  obtain ⟨first, last⟩ :=
    (TimeRange.date_holds_read date early bounds startYear lastYear).mp accepted
  -- A date stands for its midnight, under no shift.
  have midnight : Clock.reading (day * 86400000) = ⟨day * 86400, 0⟩ := by
    rw [Clock.reading, WallTime.mk.injEq]
    omega
  rw [midnight]
  refine ⟨_, rfl, ?_, ?_⟩
  · have sameDate : (w.zone.wallTime w.start).date
        = (⟨(w.zone.wallTime w.start).day * 86400, 0⟩ : WallTime).date := by
      rw [WallTime.date, WallTime.date, WallTime.day, WallTime.day, Int.mul_ediv_cancel _ (by decide)]
    have cut := w.unit.truncate_le ⟨(w.zone.wallTime w.start).day * 86400, 0⟩
    rw [Clock.truncate_congr long sameDate]
    simp only at cut ⊢
    omega
  · simp only [WallTime.day] at last
    simp only
    omega

/-- A row that the range of a window accepts has the label of a reading between the start of the first
bucket and the last millisecond, if it has one. -/
theorem label_within (regular : w.IsRegular) (near : w.zone.StaysWithinDay) (timed : s.IsTimed v)
    (avoids : s.AvoidsLeap w) (accepted : ((s.range w).eval v).holds = true) {label : String}
    (shown : (s.label w).eval v = .text label) :
    ∃ t : WallTime, label = Clock.labelText w.unit t ∧
      (w.unit.truncate (w.zone.wallTime w.start)).seconds ≤ t.seconds ∧
      t.seconds ≤ (w.zone.wallTime w.finish.beforeMilli).seconds := by
  unfold range at accepted
  unfold DateSource.label BucketLabel.eval BucketLabel.ofWindow at shown
  by_cases reads : s.readsDates w = true
  · obtain ⟨dates, -, suits, chosen⟩ := readsDates_chosen reads
    rw [chosen] at accepted shown
    simp only [suitsDates, Bool.and_eq_true, Bool.not_eq_true'] at suits
    exact label_within_dates regular near suits.1.1.1 accepted shown
  · rw [chosen_unread reads] at accepted shown
    exact label_within_time regular timed avoids accepted shown

theorem label_listed (regular : w.IsRegular) (near : w.zone.StaysWithinDay) (timed : s.IsTimed v)
    (avoids : s.AvoidsLeap w) (accepted : ((s.range w).eval v).holds = true) {label : String}
    (shown : (s.label w).eval v = .text label) {limit : Nat} {labels : List String}
    (listed : w.labels limit = .ok labels) : label ∈ labels := by
  obtain ⟨startYear, lastYear⟩ := regular.wall_years near
  obtain ⟨t, rfl, from_, upTo⟩ := label_within regular near timed avoids accepted shown
  have firstYear : 0 ≤ (w.unit.truncate (w.zone.wallTime w.start)).date.year :=
    startYear.1.trans_eq (TimeUnit.truncate_year _ _).symm
  rw [Clock.labelText_plain w.unit
    (Window.plain_of_between firstYear lastYear.2 from_ upTo)]
  exact (regular.labels_ok near listed).covers t from_ upTo

end DateSource

end Analytics
