import Analytics.Proofs.Query.Dates
import Analytics.Proofs.Zone.Names
import Analytics.Proofs.Zone.Offsets

/-!
Dates in universal time. A day of universal time is as long as any other, so a window that is read by
dates accepts what it accepts by times, and what it accepts has a label.
-/

namespace Analytics

namespace Window

variable {w : Window}

theorem utc_midnights (universal : w.zone = Zone.utc) (meets : w.meetsMidnight = true) :
    w.start.seconds % 86400 = 0 ∧ w.finish.seconds % 86400 = 0 := by
  simp only [meetsMidnight, universal, atMidnight, Bool.and_eq_true, decide_eq_true_eq,
    WallTime.secondOfDay, Zone.wallTime, Instant.toWall, Zone.offsetAt, Zone.utc, Zone.offsetFrom,
    Int.add_zero] at meets
  omega

theorem utc_dateBounds (universal : w.zone = Zone.utc) (meets : w.meetsMidnight = true)
    (lasts : w.lastsDay = true) : w.start.seconds < w.finish.seconds ∧
      w.dateBounds = (Date.ofDay (w.start.seconds / 86400),
        Date.ofDay (w.finish.seconds / 86400 - 1)) := by
  obtain ⟨startWhole, finishWhole⟩ := hasWholeSeconds meets
  obtain ⟨-, finish⟩ := utc_midnights universal meets
  have opens : w.start.seconds < w.finish.seconds := by
    simp only [lastsDay, Instant.nanosBetween, Instant.isLeap, startWhole, finishWhole,
      nanosPerSecond, decide_eq_true_eq] at lasts
    simp at lasts
    omega
  refine ⟨opens, ?_⟩
  have before : w.finish.beforeMilli.seconds = w.finish.seconds - 1 := by
    rw [Instant.beforeMilli, if_neg (by omega)]
  have last : w.lastInstant = w.finish.beforeMilli := if_pos (.inl opens)
  rw [dateBounds, last, universal]
  simp only [WallTime.date, WallTime.day, Zone.wallTime, Instant.toWall, Zone.offsetAt, Zone.utc,
    Zone.offsetFrom, Int.add_zero, before]
  rw [show (w.finish.seconds - 1) / 86400 = w.finish.seconds / 86400 - 1 by omega]

end Window

namespace DateSource

variable {κ : Type} {s : DateSource κ} {w : Window} {v : RowView κ} {second : Int}

structure IsUniversal (s : DateSource κ) : Prop where
  texts : s.encoding = .datetime
  zone : s.dateZone = Zone.utc

/-- A row that holds the time of a second and, in a column of dates, its date in universal time. -/
structure Records (s : DateSource κ) (v : RowView κ) (second : Int) : Prop where
  tells : TimestampEncoding.datetime.Tells (v.cell s.column) second
  dated : ∀ dates ∈ s.dateColumn, v.cell dates = .text (Date.ofDay (second / 86400)).text

theorem IsUniversal.suits (universal : s.IsUniversal) (known : Zone.named? w.zone.name = some w.zone)
    (suits : s.suitsDates w = true) : w.zone = Zone.utc := by
  have named : Zone.named? s.dateZone.name = some s.dateZone := by
    rw [universal.zone]
    exact Zone.utc_named
  exact (suitsDates_zone suits known named).symm.trans universal.zone

theorem range_universal (universal : s.IsUniversal)
    (known : Zone.named? w.zone.name = some w.zone) (start : w.start.utc.date.HasPlainYear)
    (finish : w.finish.utc.date.HasPlainYear) (records : s.Records v second) :
    ((s.range w).eval v).holds = ((TimeRange.predicate s.column .datetime w).eval v).holds := by
  by_cases reads : s.readsDates w = true
  · obtain ⟨dates, column, suits, chosen⟩ := readsDates_chosen reads
    have zone := universal.suits known suits
    simp only [suitsDates, Bool.and_eq_true] at suits
    obtain ⟨startDay, finishDay⟩ := Window.utc_midnights zone suits.2
    obtain ⟨opens, bounds⟩ := Window.utc_dateBounds zone suits.2 suits.1.1.2
    have low : (Date.ofDay (w.start.seconds / 86400)).HasPlainYear := w.start.utc_date ▸ start
    have high : (Date.ofDay (w.finish.seconds / 86400 - 1)).HasPlainYear :=
      Date.plain_between low (w.finish.utc_date ▸ finish) (by omega) (by omega)
    rw [Bool.eq_iff_iff]
    calc
      ((s.range w).eval v).holds = true
        ↔ w.start.seconds / 86400 ≤ second / 86400 ∧
          second / 86400 ≤ w.finish.seconds / 86400 - 1 := by
        rw [range, chosen]
        exact TimeRange.date_holds (records.dated dates column) bounds low high
      _ ↔ w.start.seconds ≤ second ∧ second < w.finish.seconds := by omega
      _ ↔ ((TimeRange.predicate s.column .datetime w).eval v).holds = true :=
        (TimeRange.datetime_holds (Window.hasWholeSeconds suits.2) start finish
          records.tells).symm
  · rw [range, chosen_unread reads, universal.texts]

/-- An accepted row of a year that has four digits and is not the last such year has a label: its
local time is in a year that the store knows. -/
theorem label_universal (universal : s.IsUniversal) (near : w.zone.StaysWithinDay)
    (records : s.Records v second) (accepted : ((s.range w).eval v).holds = true)
    (early : 0 ≤ (Date.ofDay (second / 86400)).year)
    (late : (Date.ofDay (second / 86400)).year ≤ 9998) :
    ∃ label, (s.label w).eval v = .text label := by
  by_cases reads : s.readsDates w = true
  · obtain ⟨dates, column, -, chosen⟩ := readsDates_chosen reads
    rw [range, chosen] at accepted
    have known := date_known accepted
    rw [records.dated dates column] at known
    have shown : (s.label w).eval v
        = Clock.label .date w.unit w.offsetMinutes (.text (Date.ofDay (second / 86400)).text) := by
      rw [label, chosen, BucketLabel.eval, BucketLabel.ofWindow, records.dated dates column]
    exact ⟨_, shown.trans (Clock.label_date w.unit w.offsetMinutes known).1⟩
  · have shows : s.encoding.Shows (v.cell s.column) second := by
      rw [universal.texts]
      exact TimestampEncoding.shows_datetime records.tells
    have same : (s.label w).eval v = (s.precise.label w).eval v := by
      rw [label, chosen_unread reads]
      rfl
    -- A zone is less than a day from universal time, so the year moves by one at most.
    have valid : Clock.isValid ((second + w.offsetMinutes * 60) * 1000) = true := by
      have firstYear : (Date.ofDay (-719529)).year = -1 := by decide
      have lastYear : (Date.ofDay 2932532).year = 9999 := by decide
      have from_ : -719528 ≤ second / 86400 := by
        by_contra before
        have year := Date.year_le (show second / 86400 ≤ -719529 by omega)
        omega
      have upTo : second / 86400 < 2932532 := by
        by_contra behind
        have year := Date.year_le (not_lt.mp behind)
        omega
      have offset := near w.start.seconds
      have minutes : w.offsetMinutes = (w.zone.offsetAt w.start.seconds).tdiv 60 := rfl
      have whole := Int.tmod_add_mul_tdiv (w.zone.offsetAt w.start.seconds) 60
      have minute : (0 : Int) < 60 := by decide
      have low := Int.lt_tmod_of_pos (w.zone.offsetAt w.start.seconds) minute
      have high := Int.tmod_lt_of_pos (w.zone.offsetAt w.start.seconds) minute
      rw [Clock.isValid, Clock.epochMillis, Clock.epochHalfDays, Clock.endMillis, Bool.and_eq_true,
        decide_eq_true_eq, decide_eq_true_eq]
      omega
    exact ⟨_, same.trans ((precise_label shows).trans (if_pos valid))⟩

end DateSource

end Analytics
