import Analytics.Proofs.Time.Buckets
import Analytics.Time.Window
import Mathlib.Data.List.Nodup

/-!
The labels of a window. Main statement: they are those of an exact progression, from the bucket of its
start on, one unit after the other up to the reading of its last millisecond; there are too many of them
exactly if the progression is longer than the limit. Where local clocks cannot show the start or the last
millisecond there is no answer, however few buckets there are.
-/

namespace Analytics

namespace Instant

variable {s t : Instant}

theorem le_iff : s ≤ t ↔ s.seconds < t.seconds ∨ s.seconds = t.seconds ∧ s.nanos ≤ t.nanos := Iff.rfl

theorem lt_iff : s < t ↔ s.seconds < t.seconds ∨ s.seconds = t.seconds ∧ s.nanos < t.nanos := Iff.rfl

theorem lt_of_ne (order : s ≤ t) (other : s ≠ t) : s < t := by
  obtain ⟨second, nano⟩ := s
  obtain ⟨second', nano'⟩ := t
  rw [le_iff] at order
  rw [Ne, mk.injEq] at other
  rw [lt_iff]
  dsimp only at order ⊢
  omega

theorem seconds_beforeMilli (whole : t.nanos % 1000000 = 0) :
    t.beforeMilli.seconds = if t.nanos = 0 then t.seconds - 1 else t.seconds := by
  unfold beforeMilli
  by_cases none : t.nanos = 0
  · rw [if_neg (by omega), if_pos none]
  · rw [if_pos (by omega), if_neg none]

end Instant

theorem Zone.reading?_eq_some {z : Zone} {t : Instant} {shown : WallTime} : z.reading? t = some shown
    ↔ Instant.inRange t.seconds = true ∧ z.wallTime t = shown ∧ (z.wallTime t).inRange = true := by
  rw [reading?, Option.ite_none_right_eq_some, Bool.and_eq_true, Option.some.injEq, and_assoc]
  exact and_congr_right' and_comm

theorem Zone.reading?_eq {z : Zone} {t : Instant} (known : Instant.inRange t.seconds = true)
    (kept : (z.wallTime t).inRange = true) : z.reading? t = some (z.wallTime t) :=
  reading?_eq_some.mpr ⟨known, rfl, kept⟩

namespace TimeUnit

variable {unit : TimeUnit} {t c d last : WallTime}

theorem firstDate_year (unit : TimeUnit) (d : Date) : (unit.firstDate d).year = d.year := by
  cases unit <;> rfl

theorem truncate_year (unit : TimeUnit) (t : WallTime) :
    (unit.truncate t).date.year = t.date.year := by
  by_cases long : unit.isWithinDay = false
  · rw [truncate_long long, WallTime.date_ofDate (unit.firstDate_onCalendar t.date_onCalendar),
      firstDate_year]
  · have same : (unit.truncate t).day = t.day := by
      cases unit with
      | minute | hour =>
        simp only [truncate, WallTime.day]
        omega
      | day | month | year => exact absurd rfl long
    rw [WallTime.date, WallTime.date, same]

theorem firstDay_start (unit : TimeUnit) : unit.IsStart ⟨Calendar.firstDay * 86400, 0⟩ := by
  cases unit <;> decide

theorem truncate_inRange (unit : TimeUnit) (kept : t.inRange = true) :
    (unit.truncate t).inRange = true := by
  have upTo := unit.truncate_le t
  simp only [WallTime.inRange, Instant.inRange, Bool.and_eq_true, decide_eq_true_eq] at kept ⊢
  refine ⟨?_, by omega⟩
  have first := unit.firstDay_start
  have number := first.le_iff_ordinal.mp kept.1
  exact first.le_iff_ordinal.mpr (number.trans_eq (unit.ordinal_truncate t).symm)

def countUpTo (unit : TimeUnit) (c last : WallTime) : Nat :=
  (unit.ordinal last + 1 - unit.ordinal c).toNat

theorem IsStart.between_iff (startC : unit.IsStart c) (startD : unit.IsStart d) :
    c.seconds ≤ d.seconds ∧ d ≤ last ↔ ∃ i < unit.countUpTo c last, d = unit.plus i c := by
  rw [startD.le_iff, startC.le_iff_ordinal, startD.le_iff_ordinal]
  constructor
  · rintro ⟨from_, upTo⟩
    obtain ⟨start, number⟩ := startC.plus_start (unit.ordinal d - unit.ordinal c).toNat
    exact ⟨_, by rw [countUpTo]; omega, startD.eq_of_ordinal start (by omega)⟩
  · rintro ⟨i, small, rfl⟩
    have number := (startC.plus_start i).2
    rw [countUpTo] at small
    omega

end TimeUnit

namespace Window

open TimeUnit (IsStart)

variable {unit : TimeUnit} {last cursor t : WallTime} {limit : Nat} {labels : List String} {w : Window}

def labelRun (unit : TimeUnit) (first : WallTime) (count : Nat) : List String :=
  (List.range count).map fun i => unit.label (unit.plus i first)

theorem labelRun_succ (start : unit.IsStart cursor) (count : Nat) :
    labelRun unit cursor (count + 1) = unit.label cursor :: labelRun unit (unit.next cursor) count := by
  obtain ⟨nextStart, next⟩ := start.next_start
  have first : unit.plus 0 cursor = cursor := by
    obtain ⟨own, number⟩ := start.plus_start 0
    exact own.eq_of_ordinal start (number.trans (Int.add_zero _))
  have later (i : Nat) : unit.plus (i + 1) cursor = unit.plus i (unit.next cursor) := by
    obtain ⟨own, number⟩ := start.plus_start (i + 1)
    obtain ⟨own', number'⟩ := nextStart.plus_start i
    exact own.eq_of_ordinal own' (by omega)
  rw [labelRun, List.range_succ_eq_map, List.map_cons, List.map_map, first]
  simp only [labelRun, Function.comp_def, later]

theorem labelRun_nodup (start : unit.IsStart cursor) (count : Nat) :
    (labelRun unit cursor count).Nodup := by
  refine List.Nodup.map_on (fun i _ j _ same => ?_) List.nodup_range
  obtain ⟨startI, numberI⟩ := start.plus_start i
  obtain ⟨startJ, numberJ⟩ := start.plus_start j
  rw [startI.label_inj startJ same, numberJ] at numberI
  omega

theorem label_mem_labelRun (start : unit.IsStart cursor) :
    unit.label t ∈ labelRun unit cursor (unit.countUpTo cursor last)
      ↔ unit.ordinal cursor ≤ unit.ordinal t ∧ unit.ordinal t ≤ unit.ordinal last := by
  have own := unit.truncate_start t
  have among : unit.label t ∈ labelRun unit cursor (unit.countUpTo cursor last)
      ↔ ∃ i < unit.countUpTo cursor last, unit.truncate t = unit.plus i cursor := by
    simp only [labelRun, List.mem_map, List.mem_range, ← unit.label_truncate t]
    refine exists_congr fun i => and_congr_right fun _ => ?_
    exact ⟨fun same => own.label_inj (start.plus_start i).1 same.symm, fun same => same ▸ rfl⟩
  rw [among, ← start.between_iff own, own.le_iff, start.le_iff_ordinal, own.le_iff_ordinal,
    unit.ordinal_truncate]

theorem plain_of_between {c : WallTime} (early : 0 ≤ cursor.date.year)
    (late : last.date.year ≤ 9999) (from_ : cursor.seconds ≤ c.seconds)
    (upTo : c.seconds ≤ last.seconds) : c.date.HasPlainYear := by
  have low : cursor.day ≤ c.day := Int.ediv_le_ediv (by decide) from_
  have high : c.day ≤ last.day := Int.ediv_le_ediv (by decide) upTo
  exact ⟨early.trans (Date.year_le low), (Date.year_le high).trans late⟩

theorem labelRun_sorted (start : unit.IsStart cursor) (early : 0 ≤ cursor.date.year)
    (late : last.date.year ≤ 9999) :
    (labelRun unit cursor (unit.countUpTo cursor last)).Pairwise (· < ·) := by
  have plain {i : Nat} (small : i < unit.countUpTo cursor last) :
      (unit.plus i cursor).date.HasPlainYear := by
    obtain ⟨own, -⟩ := start.plus_start i
    obtain ⟨from_, upTo⟩ := (start.between_iff own).mpr ⟨i, small, rfl⟩
    exact plain_of_between early late from_ (own.le_iff.mp upTo)
  refine List.pairwise_map.mpr (List.pairwise_lt_range.imp_of_mem fun {i j} first second less => ?_)
  obtain ⟨startI, numberI⟩ := start.plus_start i
  obtain ⟨startJ, numberJ⟩ := start.plus_start j
  rw [startI.label_lt_iff startJ (plain (List.mem_range.mp first)) (plain (List.mem_range.mp second)),
    ← not_le, startJ.le_iff_ordinal]
  omega

/-- Labels are made, and counted against the limit, one by one; there are too many exactly if the whole
progression is longer than the limit. -/
theorem labelsFrom_eq (start : unit.IsStart cursor) (kept : cursor.inRange = true)
    (lastKept : last.inRange = true) (limit : Nat) : labelsFrom unit last limit cursor
      = if limit < unit.countUpTo cursor last then none
        else some (labelRun unit cursor (unit.countUpTo cursor last)) := by
  have reached {c : WallTime} (start : unit.IsStart c) : c ≤ last ↔ 0 < unit.countUpTo c last := by
    rw [start.le_iff, start.le_iff_ordinal, TimeUnit.countUpTo]
    omega
  have behind {c : WallTime} (start : unit.IsStart c) (past : ¬ c ≤ last) :
      unit.countUpTo c last = 0 := Nat.eq_zero_of_not_pos (mt (reached start).mpr past)
  induction limit generalizing cursor with
  | zero =>
    unfold labelsFrom
    by_cases begun : cursor ≤ last
    · rw [if_pos begun, if_pos ((reached start).mp begun)]
    · rw [if_neg begun, behind start begun]
      rfl
  | succ limit ih =>
    unfold labelsFrom
    by_cases begun : cursor ≤ last
    · obtain ⟨nextStart, number⟩ := start.next_start
      have counted := (reached start).mp begun
      have one : unit.countUpTo cursor last = unit.countUpTo (unit.next cursor) last + 1 := by
        rw [TimeUnit.countUpTo] at counted ⊢
        rw [TimeUnit.countUpTo, number]
        omega
      rw [if_pos begun, TimeUnit.step, one, labelRun_succ start]
      by_cases within : (unit.next cursor).inRange = true
      · rw [if_pos within]
        dsimp only
        rw [ih nextStart within]
        by_cases many : limit < unit.countUpTo (unit.next cursor) last
        · rw [if_pos many, if_pos (Nat.succ_lt_succ many)]
          rfl
        · rw [if_neg many, if_neg (mt Nat.lt_of_succ_lt_succ many)]
          rfl
      · -- Past the years that are kept no bucket begins by the last reading.
        have none : unit.countUpTo (unit.next cursor) last = 0 := by
          refine behind nextStart fun upTo => within ?_
          have upTo := nextStart.le_iff.mp upTo
          have later := start.lt_next
          simp only [WallTime.inRange, Instant.inRange, Bool.and_eq_true, decide_eq_true_eq]
            at kept lastKept ⊢
          omega
        rw [if_neg within, none, if_neg (by omega)]
        rfl
    · rw [if_neg begun, behind start begun]
      rfl

def Touches (w : Window) (s : Int) : Prop :=
  w.start.seconds ≤ s ∧ (s < w.finish.seconds ∨ s = w.finish.seconds ∧ 0 < w.finish.nanos)

theorem touches_of_inside {t : Instant} (from_ : w.start ≤ t) (inside : t < w.finish) :
    w.Touches t.seconds := by
  rw [Instant.le_iff] at from_
  rw [Instant.lt_iff] at inside
  unfold Touches
  omega

theorem Touches.le_last {s : Int} (touches : w.Touches s) (whole : w.finish.nanos % 1000000 = 0) :
    s ≤ w.finish.beforeMilli.seconds := by
  obtain ⟨-, upTo⟩ := touches
  rw [Instant.seconds_beforeMilli whole]
  split <;> omega

theorem touches_last (opens : w.start < w.finish) (whole : w.finish.nanos % 1000000 = 0) :
    w.Touches w.finish.beforeMilli.seconds := by
  have first := touches_of_inside (.inr ⟨rfl, Nat.le_refl _⟩) opens
  refine ⟨first.le_last whole, ?_⟩
  rw [Instant.seconds_beforeMilli whole]
  split <;> omega

theorem Touches.steady {s : Int} (touches : w.Touches s)
    (steady : ∀ t, w.start ≤ t → t < w.finish →
      w.zone.offsetAt t.seconds = w.zone.offsetAt w.start.seconds) :
    w.zone.offsetAt s = w.zone.offsetAt w.start.seconds := by
  obtain ⟨from_, upTo⟩ := touches
  by_cases first : s = w.start.seconds
  · rw [first]
  · exact steady ⟨s, 0⟩ (.inl (lt_of_le_of_ne from_ (Ne.symm first))) upTo

def firstBucket (w : Window) : WallTime := w.unit.truncate (w.zone.wallTime w.start)

def lastReading (w : Window) : WallTime := w.zone.wallTime w.finish.beforeMilli

/-- How many buckets of its unit begin from a window's first one on up to its last reading. -/
def bucketCount (w : Window) : Nat := w.unit.countUpTo w.firstBucket w.lastReading

/-- The start and the last millisecond of a window, and what local clocks show there, are within the
years that are kept. -/
structure KeepsYears (w : Window) : Prop where
  start : Instant.inRange w.start.seconds = true
  finish : Instant.inRange w.finish.beforeMilli.seconds = true
  first : (w.zone.wallTime w.start).inRange = true
  last : w.lastReading.inRange = true

theorem firstBucket_start (w : Window) : w.unit.IsStart w.firstBucket := w.unit.truncate_start _

theorem labels_eq (some : w.start ≠ w.finish) (kept : w.KeepsYears) (limit : Nat) : w.labels limit
    = if limit < w.bucketCount then .error (.request (.tooManyBuckets limit))
      else .ok (labelRun w.unit w.firstBucket w.bucketCount) := by
  have listed : labelsFrom w.unit (w.zone.wallTime w.finish.beforeMilli) limit
      (w.unit.truncate (w.zone.wallTime w.start)) = _ :=
    labelsFrom_eq w.firstBucket_start (w.unit.truncate_inRange kept.first) kept.last limit
  unfold Window.labels
  rw [if_neg some, Zone.reading?_eq kept.start kept.first, Zone.reading?_eq kept.finish kept.last]
  by_cases many : limit < w.bucketCount
  · simp only [listed.trans (if_pos many), if_pos many]
  · simp only [listed.trans (if_neg many), if_neg many]
    rfl

theorem labels_stopped (some : w.start ≠ w.finish) (lost : ¬w.KeepsYears) (limit : Nat) :
    w.labels limit = .error .stopped := by
  unfold Window.labels
  rw [if_neg some]
  split
  · rename_i first last
    obtain ⟨start, -, first⟩ := Zone.reading?_eq_some.mp first
    obtain ⟨finish, -, last⟩ := Zone.reading?_eq_some.mp last
    exact absurd ⟨start, finish, first, last⟩ lost
  · rfl

theorem keepsYears_of_labels (some : w.start ≠ w.finish) (listed : w.labels limit = .ok labels) :
    w.KeepsYears := by
  by_contra lost
  rw [labels_stopped some lost] at listed
  cases listed

theorem start_ne_finish (opens : w.start < w.finish) : w.start ≠ w.finish := by
  intro same
  rw [same, Instant.lt_iff] at opens
  omega

theorem showsDates_of_labels (some : w.start ≠ w.finish) (listed : w.labels limit = .ok labels) :
    w.showsDates = true := by
  have kept := keepsYears_of_labels some listed
  have opens := Instant.lt_of_ne w.ordered some
  rw [showsDates, lastInstant, if_pos opens, Zone.reading?_eq kept.start kept.first,
    Zone.reading?_eq kept.finish kept.last]
  rfl

/-- An empty window has no labels. Any other one has a label for each start of a bucket, from its first
bucket on up to its last reading, unless there are more of them than the limit. There is no answer exactly
if one of the two readings that this takes is outside the years that are kept. -/
theorem labels_progress (w : Window) (limit : Nat) :
    (w.start = w.finish → w.labels limit = .ok []) ∧
    (w.start < w.finish →
      (w.KeepsYears → w.labels limit
        = if limit < w.bucketCount then .error (.request (.tooManyBuckets limit))
          else .ok (labelRun w.unit w.firstBucket w.bucketCount)) ∧
      (¬w.KeepsYears → w.labels limit = .error .stopped) ∧
      (∀ c, w.unit.IsStart c → (w.firstBucket.seconds ≤ c.seconds ∧ c ≤ w.lastReading
        ↔ ∃ i < w.bucketCount, c = w.unit.plus i w.firstBucket)) ∧
      (labelRun w.unit w.firstBucket w.bucketCount).Nodup ∧
      (0 ≤ w.firstBucket.date.year → w.lastReading.date.year ≤ 9999 →
        (labelRun w.unit w.firstBucket w.bucketCount).Pairwise (· < ·))) := by
  constructor
  · intro empty
    unfold Window.labels
    exact if_pos empty
  · intro opens
    have some := start_ne_finish opens
    have start := w.firstBucket_start
    exact ⟨fun kept => labels_eq some kept limit, fun lost => labels_stopped some lost limit,
      fun c begins => start.between_iff begins, labelRun_nodup start _, labelRun_sorted start⟩

def sampleMonths : Window :=
  ⟨⟨1706695200, 0⟩, ⟨1740787200, 500000000⟩, .month, Zone.utc, by decide⟩

theorem labels_progress_sample : sampleMonths.start < sampleMonths.finish ∧ sampleMonths.KeepsYears ∧
    sampleMonths.bucketCount = 15 ∧
    sampleMonths.labels 14 = .error (.request (.tooManyBuckets 14)) ∧
    sampleMonths.labels 15 = .ok (labelRun .month sampleMonths.firstBucket 15) ∧
    (labelRun .month sampleMonths.firstBucket 15).Pairwise (· < ·) := by
  have opens : sampleMonths.start < sampleMonths.finish := by decide
  have kept : sampleMonths.KeepsYears :=
    ⟨by decide +kernel, by decide +kernel, by decide +kernel, by decide +kernel⟩
  have count : sampleMonths.bucketCount = 15 := by decide +kernel
  obtain ⟨few, -⟩ := (labels_progress sampleMonths 14).2 opens
  obtain ⟨enough, -, -, -, sorted⟩ := (labels_progress sampleMonths 15).2 opens
  have few := few kept
  have enough := enough kept
  rw [count] at few enough sorted
  exact ⟨opens, kept, count, few, enough, sorted (by decide +kernel) (by decide +kernel)⟩

def tokyo : Zone :=
  ⟨"Asia/Tokyo", 33539,
    [⟨-2587712400, 32400⟩, ⟨-683802000, 36000⟩, ⟨-672310800, 32400⟩, ⟨-654771600, 36000⟩,
      ⟨-640861200, 32400⟩, ⟨-620298000, 36000⟩, ⟨-609411600, 32400⟩, ⟨-588848400, 36000⟩,
      ⟨-577962000, 32400⟩]⟩

def sampleEndOfYears : Window :=
  ⟨⟨8210266790399, 999000000⟩, ⟨8210266876799, 999000000⟩, .day, tokyo, by decide⟩

/-- Two buckets are within the limit, but clocks show the last millisecond in the year after those kept. -/
theorem labels_lost : ¬ ∀ (w : Window) (limit : Nat), w.start < w.finish →
    Instant.inRange w.start.seconds = true → Instant.inRange w.finish.seconds = true →
    Zone.named? w.zone.name = some w.zone →
    w.labels limit = if limit < w.bucketCount then .error (.request (.tooManyBuckets limit))
      else .ok (labelRun w.unit w.firstBucket w.bucketCount) := by
  intro progress
  have named : Zone.named? "Asia/Tokyo" = some tokyo := by decide +kernel
  have listed := progress sampleEndOfYears 5000 (by decide) (by decide +kernel) (by decide +kernel) named
  have stopped : sampleEndOfYears.labels 5000 = .error .stopped := by decide +kernel
  have few : ¬5000 < sampleEndOfYears.bucketCount := by decide +kernel
  rw [stopped, if_neg few] at listed
  cases listed

/-- February has 29 days, and a year 12 months. -/
example : (labelRun .day ⟨1709078400, 0⟩ 3, labelRun .month ⟨1704067200, 0⟩ 13)
    = (["2024-02-28", "2024-02-29", "2024-03-01"],
      ["2024-01-01", "2024-02-01", "2024-03-01", "2024-04-01", "2024-05-01", "2024-06-01", "2024-07-01",
        "2024-08-01", "2024-09-01", "2024-10-01", "2024-11-01", "2024-12-01", "2025-01-01"]) := by
  decide +kernel

/-- The labels of the buckets from one on, of which the last begins by `last`. -/
structure LabelsFrom (unit : TimeUnit) (last cursor : WallTime) (labels : List String) : Prop where
  sorted : labels.Pairwise (· < ·)
  starts : ∀ label ∈ labels, ∃ c, unit.IsStart c ∧ cursor.seconds ≤ c.seconds ∧
    c.seconds ≤ last.seconds ∧ unit.label c = label
  covers : ∀ t : WallTime, cursor.seconds ≤ t.seconds → t.seconds ≤ last.seconds →
    unit.label t ∈ labels

theorem labelsFrom_run (start : unit.IsStart cursor) (early : 0 ≤ cursor.date.year)
    (late : last.date.year ≤ 9999) :
    LabelsFrom unit last cursor (labelRun unit cursor (unit.countUpTo cursor last)) where
  sorted := labelRun_sorted start early late
  starts label member := by
    obtain ⟨i, small, rfl⟩ := List.mem_map.mp member
    obtain ⟨own, -⟩ := start.plus_start i
    obtain ⟨from_, upTo⟩ := (start.between_iff own).mpr ⟨i, List.mem_range.mp small, rfl⟩
    exact ⟨_, own, from_, own.le_iff.mp upTo, rfl⟩
  covers t from_ upTo := by
    have own := unit.truncate_start t
    have begun := (own.le_iff_ordinal (t := last)).mp ((unit.truncate_le t).trans upTo)
    rw [unit.ordinal_truncate] at begun
    exact (label_mem_labelRun start).mpr ⟨start.le_iff_ordinal.mp from_, begun⟩

theorem labels_ok (some : w.start ≠ w.finish) (first : (w.zone.wallTime w.start).date.HasPlainYear)
    (last : w.lastReading.date.HasPlainYear) (made : w.labels limit = .ok labels) :
    LabelsFrom w.unit w.lastReading w.firstBucket labels := by
  rw [labels_eq some (keepsYears_of_labels some made)] at made
  split at made
  · cases made
  · cases made
    exact labelsFrom_run w.firstBucket_start (first.1.trans_eq (TimeUnit.truncate_year _ _).symm) last.2

end Window

end Analytics
