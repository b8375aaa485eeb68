import Analytics.Proofs.Query.Dates
import Analytics.Proofs.Time.Named
import Analytics.Proofs.Time.Setbacks

/-!
The range of a window of local dates. Where a zone keeps its offset, the dates from the first to the
last instant of a window are those that clocks show in it. An empty window has no instant, but its
bounds are a date and its range accepts that date.
-/

namespace Analytics.Window

variable {w : Window}

theorem date_shown_iff (opens : w.start < w.finish) (whole : w.finish.nanos % 1000000 = 0)
    (onClock : w.start.OnClock)
    (steady : ∀ t, w.start ≤ t → t < w.finish →
      w.zone.offsetAt t.seconds = w.zone.offsetAt w.start.seconds) (day : Int) :
    w.zone.localDay w.start ≤ day ∧ day ≤ w.zone.localDay w.lastInstant
      ↔ ∃ t : Instant, t.OnClock ∧ w.start ≤ t ∧ t < w.finish ∧ w.zone.localDay t = day := by
  have last : w.lastInstant = w.finish.beforeMilli := if_pos opens
  have lastTouches := touches_last opens whole
  have lastOffset := lastTouches.steady steady
  simp only [Zone.localDay, WallTime.day, Zone.wallTime, Instant.toWall, last, lastOffset]
  constructor
  case mp =>
    rintro ⟨from_, upTo⟩
    rcases from_.eq_or_lt with same | later
    · exact ⟨w.start, onClock, .inr ⟨rfl, Nat.le_refl _⟩, opens, same⟩
    · -- The day begins within the window.
      have inside : w.start ≤ ⟨day * 86400 - w.zone.offsetAt w.start.seconds, 0⟩ ∧
          (⟨day * 86400 - w.zone.offsetAt w.start.seconds, 0⟩ : Instant) < w.finish := by
        have upTo' := lastTouches.2
        rw [Instant.le_iff, Instant.lt_iff]
        dsimp only
        omega
      refine ⟨_, .inl (Nat.zero_lt_succ _), inside.1, inside.2, ?_⟩
      rw [steady _ inside.1 inside.2]
      dsimp only
      omega
  case mpr =>
    rintro ⟨t, -, from_, upTo, rfl⟩
    have touches := touches_of_inside from_ upTo
    have order := touches.le_last whole
    have begun := touches.1
    rw [steady t from_ upTo]
    omega

/-- The range of dates accepts, where the zone keeps its offset, the dates that clocks show in the
window; but where the window is empty, the date that they show at its bounds. -/
theorem dates_follow {κ : Type} (w : Window) (v : RowView κ) (column : κ) (d : Date)
    (on : d.OnCalendar) (stored : v.cell column = .text d.text)
    (first : w.dateBounds.1.HasPlainYear) (last : w.dateBounds.2.HasPlainYear)
    (whole : w.finish.nanos % 1000000 = 0) (onClock : w.start.OnClock)
    (steady : ∀ t, w.start ≤ t → t < w.finish →
      w.zone.offsetAt t.seconds = w.zone.offsetAt w.start.seconds) :
    (w.start < w.finish → (((TimeRange.predicate column .date w).eval v).holds = true
      ↔ ∃ t : Instant, t.OnClock ∧ w.start ≤ t ∧ t < w.finish ∧ (w.zone.wallTime t).date = d)) ∧
    (w.start = w.finish → (((TimeRange.predicate column .date w).eval v).holds = true
      ↔ (w.zone.wallTime w.start).date = d)) := by
  have own : Date.ofDay d.toDay = d := Date.ofDay_toDay on
  have shows (t : Instant) : (w.zone.wallTime t).date = d ↔ w.zone.localDay t = d.toDay := by
    rw [← own, WallTime.date, Date.ofDay_injective.eq_iff, own]
    rfl
  have read : v.cell column = .text (Date.ofDay d.toDay).text := own.symm ▸ stored
  have accepts := TimeRange.date_holds read rfl first last
  refine ⟨fun opens => ?_, fun empty => ?_⟩
  · simp only [shows]
    exact accepts.trans (date_shown_iff opens whole onClock steady d.toDay)
  · have closed : w.lastInstant = w.start :=
      (if_neg fun opens => start_ne_finish opens empty).trans empty.symm
    rw [closed] at accepts
    rw [accepts, shows]
    exact le_antisymm_iff.symm

def sampleNewYear : Window :=
  ⟨⟨10800, 0⟩, ⟨18000, 0⟩, .hour, DateSource.guyana, by decide⟩

def sampleEmpty : Window := ⟨⟨0, 0⟩, ⟨0, 0⟩, .day, .utc, by decide⟩

def sampleDay : Date := ⟨1970, 1, 1⟩

theorem sampleDay_onCalendar : sampleDay.OnCalendar := ⟨by decide, by decide, by decide, by decide⟩

def sampleDated : RowView String := ⟨fun _ => .text sampleDay.text, fun _ => .text⟩

theorem dates_follow_sample :
    ((TimeRange.predicate "created_at" .date sampleNewYear).eval sampleDated).holds = true ∧
    ((TimeRange.predicate "created_at" .date sampleEmpty).eval sampleDated).holds = true := by
  constructor
  · have steady (t : Instant) (from_ : sampleNewYear.start ≤ t) (upTo : t < sampleNewYear.finish) :
        sampleNewYear.zone.offsetAt t.seconds
          = sampleNewYear.zone.offsetAt sampleNewYear.start.seconds := by
      have touches := touches_of_inside from_ upTo
      exact Zone.offsetAt_eq (by decide) touches.1 (touches.le_last rfl)
    exact ((dates_follow sampleNewYear sampleDated "created_at" sampleDay sampleDay_onCalendar rfl
      (by decide +kernel) (by decide +kernel) rfl (by decide) steady).1 (by decide)).mpr
      ⟨⟨14400, 0⟩, by decide, by decide, by decide, by decide +kernel⟩
  · exact ((dates_follow sampleEmpty sampleDated "created_at" sampleDay sampleDay_onCalendar rfl
      (by decide +kernel) (by decide +kernel) rfl (by decide)
      fun t from_ upTo => absurd (opens_of_inside from_ upTo) (by decide)).2 rfl).mpr
      (by decide +kernel)

/-- An empty window accepts the date of its bounds. -/
theorem dates_accept_empty : ¬ ∀ (w : Window) (v : RowView String) (column : String) (d : Date),
    d.OnCalendar → v.cell column = .text d.text →
    w.start.nanos % 1000000 = 0 → w.finish.nanos % 1000000 = 0 →
    (∀ t, w.start ≤ t → t < w.finish →
      w.zone.offsetAt t.seconds = w.zone.offsetAt w.start.seconds) →
    (((TimeRange.predicate column .date w).eval v).holds = true
      ↔ ∃ t : Instant, w.start ≤ t ∧ t < w.finish ∧ (w.zone.wallTime t).date = d) := by
  intro follows
  have accepted := follows sampleEmpty sampleDated "created_at" sampleDay sampleDay_onCalendar rfl rfl
    rfl fun t from_ upTo => absurd (opens_of_inside from_ upTo) (by decide)
  obtain ⟨t, from_, upTo, -⟩ := accepted.mp (by decide +kernel)
  exact absurd (opens_of_inside from_ upTo) (by decide)

end Analytics.Window
