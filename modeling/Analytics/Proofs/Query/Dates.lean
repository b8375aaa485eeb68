import Analytics.Proofs.Store.BucketLabels
import Analytics.Proofs.Store.Finite
import Analytics.Proofs.Zone.Days
import Analytics.Store.Answer
import Mathlib.Data.Rat.Floor

/-!
The date column beside the time column. Where no local date lies partly in a window, the dates of
rows accept exactly the rows that their times accept. Their labels are those of the times where the
offset of the window's start puts the time into the bucket that the zone's own offset puts it into.
-/

namespace Analytics

def TimestampEncoding.Tells (encoding : TimestampEncoding) (c : Cell) (second : Int) : Prop :=
  match encoding with
  | .timestamp => c.IsFinite ∧ ⌊c.value⌋ = second
  | .timestampMs => c.IsFinite ∧ ⌊c.value / 1000⌋ = second
  | .datetime => ∃ millis, Clock.Reads c millis ∧ millis / 1000 = second
  | .date => False

namespace TimestampEncoding

theorem tells_seconds (second : Int) : timestamp.Tells (.int second) second :=
  ⟨⟨rfl, rfl⟩, Int.floor_intCast second⟩

theorem tells_millis (millis : Int) : timestampMs.Tells (.int millis) (millis / 1000) := by
  refine ⟨⟨rfl, rfl⟩, Int.floor_eq_iff.mpr ?_⟩
  rw [show (Cell.int millis).value = (millis : ℚ) from rfl]
  have thousand : (0 : ℚ) < 1000 := by norm_num
  have low : millis / 1000 * 1000 ≤ millis := by omega
  have high : millis < (millis / 1000 + 1) * 1000 := by omega
  rw [le_div_iff₀ thousand, div_lt_iff₀ thousand]
  exact ⟨by exact_mod_cast low, by exact_mod_cast high⟩

/-- The second of an event, where the store reads it from the time column too. Whole seconds divide
negative milliseconds toward zero, and floating times are rounded to milliseconds, so it may not. -/
def Shows (encoding : TimestampEncoding) (c : Cell) (second : Int) : Prop :=
  encoding.Tells c second ∧
    ∃ millis, Clock.localTime? encoding 0 c = some millis ∧ millis / 1000 = second

theorem shows_seconds {second : Int} (known : Clock.isValid (second * 1000) = true) :
    timestamp.Shows (.int second) second := by
  refine ⟨tells_seconds second, second * 1000, ?_, by omega⟩
  rw [Clock.localTime?_seconds, Clock.valid?, if_pos known]
  exact Clock.later?_zero known

theorem shows_millis {millis : Int} (whole : 0 ≤ millis ∨ millis % 1000 = 0)
    (known : Clock.isValid (millis / 1000 * 1000) = true) :
    timestampMs.Shows (.int millis) (millis / 1000) := by
  have cut : millis.tdiv 1000 = millis / 1000 := by
    rcases whole with positive | exact
    · exact Int.tdiv_eq_ediv_of_nonneg positive
    · exact Int.tdiv_eq_ediv_of_dvd (Int.dvd_of_emod_eq_zero exact)
  refine ⟨tells_millis millis, millis / 1000 * 1000, ?_, by omega⟩
  rw [Clock.localTime?_millis, cut, Clock.valid?, if_pos known]
  exact Clock.later?_zero known

theorem shows_datetime {c : Cell} {second : Int} (tells : datetime.Tells c second) :
    datetime.Shows c second := by
  obtain ⟨millis, reads, exact⟩ := tells
  refine ⟨⟨millis, reads, exact⟩, millis, ?_, exact⟩
  rw [Clock.localTime?_datetime, Clock.moment?_of_time? reads.time]
  exact Clock.later?_zero (Clock.isValid_of_time? reads.time)

theorem Tells.ne_date {encoding : TimestampEncoding} {c : Cell} {second : Int}
    (tells : encoding.Tells c second) : encoding ≠ .date := by
  rintro rfl
  exact tells

end TimestampEncoding

theorem Instant.utc_date (t : Instant) : t.utc.date = Date.ofDay (t.seconds / 86400) := by
  rw [WallTime.date, WallTime.day, utc, toWall, Int.add_zero]

namespace Zone

def dateAt (z : Zone) (second : Int) : Date := Date.ofDay (z.localDay ⟨second, 0⟩)

end Zone

namespace Window

structure HasWholeDays (w : Window) : Prop where
  starts : w.zone.BeginsDay w.start.seconds (w.zone.localDay w.start)
  ends : w.zone.BeginsDay w.finish.seconds (w.zone.localDay w.lastInstant + 1)

structure HasPlainYears (w : Window) : Prop where
  first : w.dateBounds.1.HasPlainYear
  last : w.dateBounds.2.HasPlainYear
  start : w.start.utc.date.HasPlainYear
  finish : w.finish.utc.date.HasPlainYear

def HasWholeSeconds (w : Window) : Prop := w.start.nanos = 0 ∧ w.finish.nanos = 0

theorem hasWholeSeconds {w : Window} (meets : w.meetsMidnight = true) : w.HasWholeSeconds := by
  simp only [meetsMidnight, atMidnight, Bool.and_eq_true, decide_eq_true_eq] at meets
  exact ⟨meets.1.2, meets.2.2⟩

end Window

namespace TimeRange

variable {κ : Type} {column : κ} {w : Window} {v : RowView κ}

theorem halfOpen_holds (left low high : Scalar κ) : ((halfOpen left low high).eval v).holds
    = (((Predicate.compare .atLeast left low).eval v).holds
      && ((Predicate.compare .less left high).eval v).holds) :=
  Truth.and_holds _ _

theorem not_lt_iff {i j : Int} : compare i j ≠ .lt ↔ j ≤ i := by
  rw [Ne, compare_lt_iff_lt, not_lt]

theorem date_bound {day bound : Int} (read : Clock.date (v.cell column) = .text (Date.ofDay day).text)
    (early : (Date.ofDay day).year ≤ 9999) (plain : (Date.ofDay bound).HasPlainYear)
    (op : Comparison) : ((Predicate.compare op (.date (.column column))
      (.date (.bound (.text (Date.ofDay bound).text)))).eval v).holds
    = op.holds (compare day bound) := by
  have on := Date.ofDay_onCalendar
  have kept : Clock.date (.text (Date.ofDay bound).text) = .text (Date.ofDay bound).text :=
    Clock.date_text_plain (on bound) plain
  have order := Date.compare_text (on day) (on bound) early plain
  rw [Date.toDay_ofDay, Date.toDay_ofDay] at order
  simp only [Predicate.eval, Scalar.eval, Scalar.affinity, Bind.toCell, kept, read]
  rw [compareCells, ← order]
  simp [Cell.isNull, Affinity.common, Cell.compared, Cell.order, Truth.ofBool_holds]

theorem date_holds_read {day first last : Int}
    (read : Clock.date (v.cell column) = .text (Date.ofDay day).text)
    (early : (Date.ofDay day).year ≤ 9999)
    (bounds : w.dateBounds = (Date.ofDay first, Date.ofDay last))
    (low : (Date.ofDay first).HasPlainYear) (high : (Date.ofDay last).HasPlainYear) :
    ((predicate column .date w).eval v).holds = true ↔ first ≤ day ∧ day ≤ last := by
  rw [predicate, bounds, Predicate.eval, Truth.and_holds, Bool.and_eq_true,
    date_bound read early low, date_bound read early high]
  simp only [Comparison.holds, decide_eq_true_eq, not_lt_iff, ne_eq, compare_gt_iff_gt, not_lt]

theorem date_unread (unread : Clock.date (v.cell column) = .null) :
    ((predicate column .date w).eval v).holds = false := by
  simp only [predicate, Predicate.eval, Scalar.eval, unread, compareCells, Cell.isNull,
    Bool.true_or, if_true]
  rfl

theorem date_holds {day first last : Int} (stored : v.cell column = .text (Date.ofDay day).text)
    (bounds : w.dateBounds = (Date.ofDay first, Date.ofDay last))
    (low : (Date.ofDay first).HasPlainYear) (high : (Date.ofDay last).HasPlainYear) :
    ((predicate column .date w).eval v).holds = true ↔ first ≤ day ∧ day ≤ last := by
  have on := Date.ofDay_onCalendar day
  have read := Clock.date_text on
  rw [← stored] at read
  by_cases known : Clock.KnownYear (Date.ofDay day).year ∧
      Clock.isValid ((Date.ofDay day).toDay * 86400000) = true
  · rw [if_pos known, stored, ← stored] at read
    exact date_holds_read (read.trans stored) known.1.2 bounds low high
  · rw [if_neg known] at read
    rw [date_unread read]
    -- Between plain years the stored date is one that the store knows.
    refine iff_of_false Bool.false_ne_true fun ⟨from_, upTo⟩ => ?_
    have kept := Clock.date_text_plain on (Date.plain_between low high from_ upTo)
    rw [← stored, read, stored] at kept
    cases kept

theorem timestamp_compare {millis : Int} {t : Instant} (reads : Clock.Reads (v.cell column) millis)
    (same : Clock.dateTime (.text t.dateTimeText) = .text t.utc.dateTimeText)
    (order : compare (Clock.reading millis).dateTimeText t.utc.dateTimeText
      = compare (millis / 1000) t.seconds) (op : Comparison) :
    ((Predicate.compare op (.timestamp (.column column))
      (.timestamp (.bound (.text t.dateTimeText)))).eval v).holds
    = op.holds (compare (millis / 1000) t.seconds) := by
  simp only [Predicate.eval, Scalar.eval, Scalar.affinity, Bind.toCell, same, reads.dateTime]
  rw [compareCells]
  simp only [Cell.isNull, Bool.or_self, Bool.false_eq_true, if_false, Affinity.common,
    Cell.compared, Cell.order, order, Truth.ofBool_holds]

theorem timestamp_bound {millis : Int} {t : Instant}
    (reads : Clock.Reads (v.cell column) millis) (plain : t.utc.date.HasPlainYear)
    (moment : t.utc.IsPlain) (op : Comparison) :
    ((Predicate.compare op (.timestamp (.column column))
      (.timestamp (.bound (.text t.dateTimeText)))).eval v).holds
    = op.holds (compare (millis / 1000) t.seconds) := by
  have early := Clock.year_le_of_isValid (Clock.isValid_of_time? reads.time)
  have seconds : t.utc.seconds = t.seconds := Int.add_zero _
  have order := WallTime.compare_dateTimeText early plain (WallTime.isPlain_whole _) moment
  rw [seconds] at order
  exact timestamp_compare reads (Clock.dateTime_text_known (Clock.isValid_of_plain plain) moment)
    order op

theorem datetime_holds {second : Int} (whole : w.HasWholeSeconds)
    (start : w.start.utc.date.HasPlainYear) (finish : w.finish.utc.date.HasPlainYear)
    (tells : TimestampEncoding.datetime.Tells (v.cell column) second) :
    ((predicate column .datetime w).eval v).holds = true
      ↔ w.start.seconds ≤ second ∧ second < w.finish.seconds := by
  obtain ⟨millis, reads, rfl⟩ := tells
  have moment {t : Instant} (within : t.nanos = 0) : t.utc.IsPlain := by
    rw [WallTime.IsPlain, Instant.utc, Instant.toWall, within]
    exact (by decide : 0 < nanosPerSecond)
  rw [predicate, halfOpen_holds, timestamp_bound reads start (moment whole.1),
    timestamp_bound reads finish (moment whole.2)]
  simp only [Comparison.holds, Bool.and_eq_true, decide_eq_true_eq, ne_eq, compare_lt_iff_lt,
    not_lt]

theorem precise_holds {encoding : TimestampEncoding} {second : Int} (whole : w.HasWholeSeconds)
    (years : w.HasPlainYears) (kept : (v.cell column).kept (v.affinity column) = v.cell column)
    (tells : encoding.Tells (v.cell column) second) :
    ((predicate column encoding w).eval v).holds = true
      ↔ w.start.seconds ≤ second ∧ second < w.finish.seconds := by
  have affinity : (v.affinity column).common .none = v.affinity column := by
    cases v.affinity column <;> rfl
  cases encoding with
  | date => cases tells
  | timestamp =>
    obtain ⟨finite, rfl⟩ := tells
    have finish : secondsUp w.finish = w.finish.seconds := by simp [secondsUp, whole.2]
    rw [predicate, halfOpen_holds, finish]
    simp only [Predicate.eval, Scalar.eval, Scalar.affinity, Bind.toCell, affinity,
      finite.compareCells_int kept, Comparison.holds, Bool.and_eq_true, decide_eq_true_eq, ne_eq,
      compare_lt_iff_lt, not_lt, Int.le_floor, Int.floor_lt]
  | timestampMs =>
    obtain ⟨finite, rfl⟩ := tells
    have start : w.start.toMillis = w.start.seconds * 1000 := by simp [Instant.toMillis, whole.1]
    have finish : millisUp w.finish = w.finish.seconds * 1000 := by
      simp [millisUp, Instant.toMillis, whole.2]
    have thousand : (0 : ℚ) < 1000 := by norm_num
    rw [predicate, halfOpen_holds, start, finish]
    simp only [Predicate.eval, Scalar.eval, Scalar.affinity, Bind.toCell, affinity,
      finite.compareCells_int kept, Comparison.holds, Bool.and_eq_true, decide_eq_true_eq, ne_eq,
      compare_lt_iff_lt, not_lt, Int.le_floor, Int.floor_lt, le_div_iff₀ thousand,
      div_lt_iff₀ thousand, Int.cast_mul, Int.cast_ofNat]
  | datetime => exact datetime_holds whole years.start years.finish tells

end TimeRange

namespace DateSource

variable {κ : Type}

theorem readsDates_chosen {s : DateSource κ} {w : Window} (reads : s.readsDates w = true) :
    ∃ dates, s.dateColumn = some dates ∧ s.suitsDates w = true ∧ s.chosen w = (dates, .date) := by
  simp only [readsDates, Bool.and_eq_true, Option.isSome_iff_exists] at reads
  obtain ⟨⟨dates, column⟩, suits⟩ := reads
  exact ⟨dates, column, suits, by rw [chosen, column]; simp only [suits, if_true]⟩

theorem chosen_unread {s : DateSource κ} {w : Window} (unread : ¬ s.readsDates w = true) :
    s.chosen w = (s.column, s.encoding) := by
  unfold chosen
  cases dated : s.dateColumn with
  | none => rfl
  | some dates =>
    rw [readsDates, dated, Option.isSome_some, Bool.true_and] at unread
    exact if_neg unread

def precise (s : DateSource κ) : DateSource κ := { s with dateColumn := none }

theorem suitsDates_zone {s : DateSource κ} {w : Window} (suits : s.suitsDates w = true)
    (known : Zone.named? w.zone.name = some w.zone)
    (known' : Zone.named? s.dateZone.name = some s.dateZone) : s.dateZone = w.zone := by
  simp only [suitsDates, Bool.and_eq_true, decide_eq_true_eq] at suits
  rw [suits.1.2, known'] at known
  exact Option.some.inj known

/-- Where no local date lies partly in the window, the date column accepts exactly the rows that the
time column accepts. -/
theorem range_eq_precise (s : DateSource κ) (w : Window) (reads : s.readsDates w = true)
    (known : Zone.named? w.zone.name = some w.zone)
    (known' : Zone.named? s.dateZone.name = some s.dateZone) (days : w.HasWholeDays)
    (years : w.HasPlainYears) (v : RowView κ) (second : Int)
    (kept : (v.cell s.column).kept (v.affinity s.column) = v.cell s.column)
    (tells : s.encoding.Tells (v.cell s.column) second)
    (dated : ∀ dates ∈ s.dateColumn, v.cell dates = .text (s.dateZone.dateAt second).text) :
    ((s.range w).eval v).holds = ((s.precise.range w).eval v).holds := by
  obtain ⟨dates, column, suits, chosen⟩ := readsDates_chosen reads
  have zone := suitsDates_zone suits known known'
  simp only [suitsDates, Bool.and_eq_true] at suits
  have whole := Window.hasWholeSeconds suits.2
  have bounds : w.dateBounds = (Date.ofDay (w.zone.localDay w.start),
      Date.ofDay (w.zone.localDay w.lastInstant)) := rfl
  have first := years.first
  have last := years.last
  rw [bounds] at first last
  have stored := dated dates column
  rw [zone] at stored
  rw [Bool.eq_iff_iff]
  calc
    ((s.range w).eval v).holds = true
      ↔ w.zone.localDay w.start ≤ w.zone.localDay ⟨second, 0⟩ ∧
        w.zone.localDay ⟨second, 0⟩ ≤ w.zone.localDay w.lastInstant := by
      rw [range, chosen]
      exact TimeRange.date_holds stored bounds first last
    _ ↔ w.start.seconds ≤ second ∧ second < w.finish.seconds := by
      have := days.starts second
      have := days.ends second
      omega
    _ ↔ ((s.precise.range w).eval v).holds = true :=
      (TimeRange.precise_holds whole years kept tells).symm

theorem date_known {dates : κ} {w : Window} {v : RowView κ}
    (accepted : ((TimeRange.predicate dates .date w).eval v).holds = true) :
    Clock.date (v.cell dates) ≠ .null := by
  intro unread
  rw [TimeRange.date_unread unread] at accepted
  cases accepted

theorem precise_label {s : DateSource κ} {w : Window} {v : RowView κ} {second : Int}
    (shows : s.encoding.Shows (v.cell s.column) second) : (s.precise.label w).eval v
    = if Clock.isValid ((second + w.offsetMinutes * 60) * 1000) then
        .text (Clock.labelText w.unit ⟨second + w.offsetMinutes * 60, 0⟩)
      else .null := by
  obtain ⟨tells, millis, read, rfl⟩ := shows
  exact Clock.label_shift tells.ne_date read w.unit w.offsetMinutes

/-- The labels of the date column and of the time column are one label exactly if the time under the
offset of the window's start is known and in the bucket of the local time; so they are one wherever
that offset is the zone's own. -/
theorem label_eq_precise (s : DateSource κ) (w : Window) (reads : s.readsDates w = true)
    (v : RowView κ) (second : Int) (accepted : ((s.range w).eval v).holds = true)
    (shows : s.encoding.Shows (v.cell s.column) second)
    (dated : ∀ dates ∈ s.dateColumn, v.cell dates = .text (w.zone.dateAt second).text) :
    ((s.label w).eval v = (s.precise.label w).eval v
      ↔ Clock.isValid ((second + w.offsetMinutes * 60) * 1000) = true ∧
        w.unit.truncate (w.zone.wallTime ⟨second, 0⟩)
          = w.unit.truncate (Instant.toWall ⟨second, 0⟩ (w.offsetMinutes * 60))) ∧
      (w.zone.offsetAt second = w.offsetMinutes * 60 →
        (s.label w).eval v = (s.precise.label w).eval v) := by
  obtain ⟨dates, column, suits, chosen⟩ := readsDates_chosen reads
  rw [range, chosen] at accepted
  have known := date_known accepted
  have stored := dated dates column
  rw [stored] at known
  obtain ⟨shown, valid⟩ := Clock.label_date w.unit w.offsetMinutes known
  have long : w.unit.isWithinDay = false := by
    simp only [suitsDates, Bool.and_eq_true, Bool.not_eq_true'] at suits
    exact suits.1.1.1
  have label : (s.label w).eval v
      = .text (Clock.labelText w.unit ⟨w.zone.localDay ⟨second, 0⟩ * 86400, 0⟩) := by
    rw [DateSource.label, chosen, ← shown, ← Zone.dateAt, ← stored]
    rfl
  -- The first moment of the local date is in the bucket of the local time.
  have bucket : w.unit.truncate ⟨w.zone.localDay ⟨second, 0⟩ * 86400, 0⟩
      = w.unit.truncate (w.zone.wallTime ⟨second, 0⟩) := by
    refine Clock.truncate_congr long ?_
    rw [WallTime.date, WallTime.day, Int.mul_ediv_cancel _ (by decide)]
    rfl
  have agree : (s.label w).eval v = (s.precise.label w).eval v
      ↔ Clock.isValid ((second + w.offsetMinutes * 60) * 1000) = true ∧
        w.unit.truncate (w.zone.wallTime ⟨second, 0⟩)
          = w.unit.truncate (Instant.toWall ⟨second, 0⟩ (w.offsetMinutes * 60)) := by
    rw [label, precise_label shows, ← bucket, ← Clock.labelText_inj long]
    split
    case isTrue within => simp [within, Instant.toWall]
    case isFalse outside => simp [outside]
  refine ⟨agree, fun offset => agree.mpr ⟨?_, by rw [← offset]; rfl⟩⟩
  simp only [Zone.localDay, WallTime.day, Zone.wallTime, Instant.toWall, offset] at valid
  rw [Clock.isValid, Clock.epochMillis, Clock.epochHalfDays, Clock.endMillis, Bool.and_eq_true,
    decide_eq_true_eq, decide_eq_true_eq] at valid ⊢
  omega

def guyana : Zone :=
  ⟨"America/Guyana", -13959,
    [⟨-1843589241, -14400⟩, ⟨-1730577600, -13500⟩, ⟨176096700, -10800⟩, ⟨701841600, -14400⟩]⟩

theorem guyana_named : Zone.named? "America/Guyana" = some guyana := by decide +kernel

def sampleDates : DateSource String := ⟨"created_at", .timestampMs, some "created_date", guyana⟩

def sampleRow (millis : Int) (date : String) : RowView String :=
  ⟨fun c => if c = "created_at" then .int millis else .text date,
    fun c => if c = "created_at" then .integer else .text⟩

def sampleLateStart : Window := ⟨⟨701841600, 0⟩, ⟨701928000, 0⟩, .day, guyana, by decide⟩

def sampleDays : Window := ⟨⟨701751600, 0⟩, ⟨702100800, 0⟩, .day, guyana, by decide⟩

theorem range_eq_precise_sample :
    ((sampleDates.range sampleDays).eval (sampleRow 701843400000 "1992-03-29")).holds
      = ((sampleDates.precise.range sampleDays).eval (sampleRow 701843400000 "1992-03-29")).holds :=
  range_eq_precise sampleDates sampleDays (by decide +kernel) guyana_named guyana_named
    ⟨.of_changes (by decide +kernel), .of_changes (by decide +kernel)⟩
    ⟨by decide +kernel, by decide +kernel, by decide +kernel, by decide +kernel⟩
    (sampleRow 701843400000 "1992-03-29") 701843400 (by decide)
    (TimestampEncoding.tells_millis 701843400000) (by
      intro dates column
      cases column
      decide +kernel)

/-- The dates of a window that starts at the second of two midnights accept a row before it. -/
theorem range_misses_start : ¬ ∀ (s : DateSource String) (w : Window), s.readsDates w = true →
    Zone.named? w.zone.name = some w.zone → Zone.named? s.dateZone.name = some s.dateZone →
    ∀ (v : RowView String) (second : Int),
      (v.cell s.column).kept (v.affinity s.column) = v.cell s.column →
      s.encoding.Tells (v.cell s.column) second →
      (∀ dates ∈ s.dateColumn, v.cell dates = .text (s.dateZone.dateAt second).text) →
      ((s.range w).eval v).holds = ((s.precise.range w).eval v).holds := by
  intro agree
  have same := agree sampleDates sampleLateStart (by decide +kernel) guyana_named guyana_named
    (sampleRow 701839800000 "1992-03-29") 701839800 (by decide)
    (TimestampEncoding.tells_millis 701839800000) (by
      intro dates column
      cases column
      decide +kernel)
  exact absurd same (by decide +kernel)

theorem label_eq_precise_sample :
    (sampleDates.label sampleDays).eval (sampleRow 701839800000 "1992-03-29")
      = (sampleDates.precise.label sampleDays).eval (sampleRow 701839800000 "1992-03-29") :=
  (label_eq_precise sampleDates sampleDays (by decide +kernel)
    (sampleRow 701839800000 "1992-03-29") 701839800 (by decide +kernel)
    (TimestampEncoding.shows_millis (by decide) (by decide +kernel)) (by
      intro dates column
      cases column
      decide +kernel)).2 (by decide +kernel)

/-- Behind a change of the clocks the offset of the start puts a row on the next day. -/
theorem label_shifts_behind_change : ¬ ∀ (s : DateSource String) (w : Window),
    s.readsDates w = true → Zone.named? w.zone.name = some w.zone →
    ∀ (v : RowView String) (second : Int), ((s.range w).eval v).holds = true →
      ((s.precise.range w).eval v).holds = true →
      s.encoding.Tells (v.cell s.column) second →
      (∀ dates ∈ s.dateColumn, v.cell dates = .text (w.zone.dateAt second).text) →
      (s.label w).eval v = (s.precise.label w).eval v := by
  intro agree
  have same := agree sampleDates sampleDays (by decide +kernel) guyana_named
    (sampleRow 702012600000 "1992-03-30") 702012600 (by decide +kernel) (by decide +kernel)
    (TimestampEncoding.tells_millis 702012600000) (by
      intro dates column
      cases column
      decide +kernel)
  exact absurd same (by decide +kernel)

end DateSource

end Analytics
