import Analytics.Time.Calendar
import Mathlib.Tactic.IntervalCases
import Mathlib.Order.Basic

/-!
The calendar counts days without gaps. Each day number has one date, each date of the calendar one
day number, and dates run on with their numbers by year, month and day.
-/

namespace Analytics

namespace Calendar

/-- Days of a leap year that other years lack. -/
def leapDays (leap : Bool) : Nat := if leap then 1 else 0

theorem daysBeforeYear_succ (year : Int) :
    daysBeforeYear (year + 1) = daysBeforeYear year + 365 + leapDays (isLeap year) := by
  have leap : (leapDays (isLeap year) : Int)
      = if year % 4 = 0 ∧ (year % 100 ≠ 0 ∨ year % 400 = 0) then 1 else 0 := by
    by_cases fourth : year % 4 = 0 <;> by_cases century : year % 100 = 0 <;>
      by_cases era : year % 400 = 0 <;> simp [leapDays, isLeap, fourth, century, era]
  rw [leap, daysBeforeYear, daysBeforeYear]
  split <;> omega

theorem daysBeforeYear_mono {early late : Int} (le : early ≤ late) :
    daysBeforeYear early ≤ daysBeforeYear late := by
  simp only [daysBeforeYear]
  omega

theorem yearOf_begins (day : Int) : daysBeforeYear (yearOf day) ≤ day := by
  simp only [yearOf]
  split
  case isTrue before => simp only [daysBeforeYear] at before ⊢; omega
  case isFalse =>
    split
    case isTrue later => exact later
    case isFalse => omega

theorem yearOf_ends (day : Int) : day < daysBeforeYear (yearOf day + 1) := by
  simp only [yearOf]
  split
  case isTrue before => rwa [Int.sub_add_cancel]
  case isFalse =>
    split
    case isTrue later => simp only [daysBeforeYear] at later ⊢; omega
    case isFalse within => omega

theorem daysBeforeMonth_lt (leap : Bool) {month : Nat} (first : 1 ≤ month) (last : month ≤ 12) :
    daysBeforeMonth leap month < daysBeforeMonth leap (month + 1) := by
  interval_cases month <;> cases leap <;> decide

theorem daysBeforeMonth_le (leap : Bool) {early late : Nat} (first : 1 ≤ early) (le : early ≤ late)
    (last : late ≤ 13) : daysBeforeMonth leap early ≤ daysBeforeMonth leap late := by
  induction late, le using Nat.le_induction with
  | base => exact le_refl _
  | succ month from_ ih =>
    exact (ih (by omega)).trans (daysBeforeMonth_lt leap (by omega) (by omega)).le

theorem daysBeforeMonth_first (leap : Bool) : daysBeforeMonth leap 1 = 0 := by cases leap <;> rfl

theorem daysBeforeMonth_past (leap : Bool) : daysBeforeMonth leap 13 = 365 + leapDays leap := by
  cases leap <;> rfl

theorem monthUpTo_spec (leap : Bool) (dayOfYear : Nat) {month : Nat} (first : 1 ≤ month)
    (before : dayOfYear < daysBeforeMonth leap (month + 1)) :
    let found := monthUpTo leap dayOfYear month
    1 ≤ found ∧ found ≤ month ∧ daysBeforeMonth leap found ≤ dayOfYear ∧
      dayOfYear < daysBeforeMonth leap (found + 1) := by
  induction month, first using Nat.le_induction with
  | base =>
    have begun : daysBeforeMonth leap (0 + 1) ≤ dayOfYear := by
      rw [daysBeforeMonth_first]
      exact Nat.zero_le _
    simp only [monthUpTo, if_pos begun]
    exact ⟨le_refl _, le_refl _, begun, before⟩
  | succ month from_ ih =>
    rw [monthUpTo]
    split
    case isTrue begun => exact ⟨by omega, le_refl _, begun, before⟩
    case isFalse later =>
      obtain ⟨low, high, begun, ended⟩ := ih (by omega)
      exact ⟨low, by omega, begun, ended⟩

theorem monthOf_spec (leap : Bool) {dayOfYear : Nat} (within : dayOfYear < 365 + leapDays leap) :
    1 ≤ monthOf leap dayOfYear ∧ monthOf leap dayOfYear ≤ 12 ∧
      daysBeforeMonth leap (monthOf leap dayOfYear) ≤ dayOfYear ∧
      dayOfYear < daysBeforeMonth leap (monthOf leap dayOfYear + 1) :=
  monthUpTo_spec leap dayOfYear (by omega) (by rwa [daysBeforeMonth_past])

end Calendar

namespace Date

open Calendar

/-- A month of the year and a day of that month. -/
structure OnCalendar (d : Date) : Prop where
  firstMonth : 1 ≤ d.month
  lastMonth : d.month ≤ 12
  firstDay : 1 ≤ d.day
  lastDay : d.day ≤ daysInMonth (isLeap d.year) d.month

namespace OnCalendar

variable {d e : Date}

theorem beforeNextMonth (on : d.OnCalendar) :
    daysBeforeMonth (isLeap d.year) d.month + d.day
      ≤ daysBeforeMonth (isLeap d.year) (d.month + 1) := by
  have := on.lastDay
  have := daysBeforeMonth_lt (isLeap d.year) on.firstMonth on.lastMonth
  simp only [daysInMonth] at *
  omega

theorem yearBegins (on : d.OnCalendar) : daysBeforeYear d.year - epochDay ≤ d.toDay := by
  have := on.firstDay
  simp only [toDay]
  omega

theorem yearEnds (on : d.OnCalendar) : d.toDay < daysBeforeYear (d.year + 1) - epochDay := by
  have inYear : daysBeforeMonth (isLeap d.year) d.month + d.day
      ≤ 365 + leapDays (isLeap d.year) := by
    rw [← daysBeforeMonth_past]
    have := on.lastMonth
    exact on.beforeNextMonth.trans (daysBeforeMonth_le _ (by omega) (by omega) (le_refl _))
  rw [daysBeforeYear_succ]
  simp only [toDay]
  omega

theorem day_le_31 (on : d.OnCalendar) : d.day ≤ 31 := by
  have days : daysInMonth (isLeap d.year) d.month ≤ 31 := by
    have first := on.firstMonth
    have last := on.lastMonth
    generalize d.month = month at first last
    interval_cases month <;> cases isLeap d.year <;> decide
  exact on.lastDay.trans days

end OnCalendar

/-- Whether a date comes before another, by year, month and day. -/
def Before (d e : Date) : Prop :=
  d.year < e.year ∨ d.year = e.year ∧ (d.month < e.month ∨ d.month = e.month ∧ d.day < e.day)

theorem toDay_lt_of_before {d e : Date} (onD : d.OnCalendar) (onE : e.OnCalendar)
    (before : d.Before e) : d.toDay < e.toDay := by
  rcases before with year | ⟨year, month | ⟨month, day⟩⟩
  · have := onD.yearEnds
    have := onE.yearBegins
    have : daysBeforeYear (d.year + 1) ≤ daysBeforeYear e.year := daysBeforeYear_mono year
    omega
  · have last := onE.lastMonth
    have next : daysBeforeMonth (isLeap e.year) (d.month + 1)
        ≤ daysBeforeMonth (isLeap e.year) e.month :=
      daysBeforeMonth_le _ (by omega) month (by omega)
    have ended := onD.beforeNextMonth
    have := onE.firstDay
    rw [year] at ended
    simp only [toDay, year]
    omega
  · simp only [toDay, year, month]
    omega

theorem toDay_lt_iff {d e : Date} (onD : d.OnCalendar) (onE : e.OnCalendar) :
    d.toDay < e.toDay ↔ d.Before e := by
  refine ⟨fun less => ?_, toDay_lt_of_before onD onE⟩
  by_contra behind
  have same : d = e ∨ e.Before d := by
    simp only [Before] at behind ⊢
    obtain ⟨year, month, day⟩ := d
    obtain ⟨year', month', day'⟩ := e
    simp only [mk.injEq] at *
    omega
  rcases same with rfl | after
  · omega
  · have := toDay_lt_of_before onE onD after
    omega

theorem dayOfYear_lt (day : Int) :
    ((day + epochDay) - daysBeforeYear (yearOf (day + epochDay))).toNat
      < 365 + leapDays (isLeap (yearOf (day + epochDay))) := by
  have begun := yearOf_begins (day + epochDay)
  have ended := yearOf_ends (day + epochDay)
  rw [daysBeforeYear_succ] at ended
  omega

theorem ofDay_onCalendar (day : Int) : (ofDay day).OnCalendar := by
  obtain ⟨first, last, begun, ended⟩ := monthOf_spec _ (dayOfYear_lt day)
  refine ⟨first, last, Nat.le_add_left 1 _, ?_⟩
  simp only [ofDay, daysInMonth]
  omega

@[simp] theorem toDay_ofDay (day : Int) : (ofDay day).toDay = day := by
  have begun := yearOf_begins (day + epochDay)
  obtain ⟨-, -, month, -⟩ := monthOf_spec _ (dayOfYear_lt day)
  simp only [ofDay, toDay]
  omega

theorem toDay_injective {d e : Date} (onD : d.OnCalendar) (onE : e.OnCalendar)
    (same : d.toDay = e.toDay) : d = e := by
  have notBefore : ¬ d.Before e := fun before => (toDay_lt_of_before onD onE before).ne same
  have notAfter : ¬ e.Before d := fun after => (toDay_lt_of_before onE onD after).ne same.symm
  obtain ⟨year, month, day⟩ := d
  obtain ⟨year', month', day'⟩ := e
  simp only [Before, mk.injEq] at *
  omega

theorem ofDay_toDay {d : Date} (on : d.OnCalendar) : ofDay d.toDay = d :=
  toDay_injective (ofDay_onCalendar _) on (toDay_ofDay _)

theorem ofDay_before_iff (early late : Int) : (ofDay early).Before (ofDay late) ↔ early < late := by
  rw [← toDay_lt_iff (ofDay_onCalendar early) (ofDay_onCalendar late), toDay_ofDay, toDay_ofDay]

theorem ofDay_injective : Function.Injective ofDay := fun early late same => by
  rw [← toDay_ofDay early, same, toDay_ofDay]

example : ofDay 20301 = ⟨2025, 8, 1⟩ := by decide

end Date

end Analytics
