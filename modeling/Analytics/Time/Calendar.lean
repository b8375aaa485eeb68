/-!
The calendar: dates of the Gregorian rule for every year, numbered by days from 1970-01-01.
-/

namespace Analytics

structure Date where
  year : Int
  month : Nat
  day : Nat
  deriving DecidableEq, Repr

namespace Calendar

def isLeap (year : Int) : Bool := year % 4 = 0 && (year % 100 ≠ 0 || year % 400 = 0)

def daysBeforeYear (year : Int) : Int :=
  365 * (year - 1) + (year - 1) / 4 - (year - 1) / 100 + (year - 1) / 400

/-- Days of the year before the first day of a month, in a leap year or another one. -/
def daysBeforeMonth (leap : Bool) (month : Nat) : Nat :=
  let extra := if leap && 2 < month then 1 else 0
  extra + match month with
    | 1 => 0
    | 2 => 31
    | 3 => 59
    | 4 => 90
    | 5 => 120
    | 6 => 151
    | 7 => 181
    | 8 => 212
    | 9 => 243
    | 10 => 273
    | 11 => 304
    | 12 => 334
    | _ => 365

def daysInMonth (leap : Bool) (month : Nat) : Nat :=
  daysBeforeMonth leap (month + 1) - daysBeforeMonth leap month

def epochDay : Int := 719162

def firstYear : Int := -262143
def lastYear : Int := 262142

def yearOf (day : Int) : Int :=
  let guess := (400 * day) / 146097 + 1
  if day < daysBeforeYear guess then guess - 1
  else if daysBeforeYear (guess + 1) ≤ day then guess + 1
  else guess

def monthUpTo (leap : Bool) (dayOfYear : Nat) : Nat → Nat
  | 0 => 1
  | month + 1 =>
    if daysBeforeMonth leap (month + 1) ≤ dayOfYear then month + 1
    else monthUpTo leap dayOfYear month

def monthOf (leap : Bool) (dayOfYear : Nat) : Nat := monthUpTo leap dayOfYear 12

def weekday (day : Int) : Int := (day + 4) % 7

end Calendar

namespace Date

open Calendar

def ofDay (day : Int) : Date :=
  let count := day + epochDay
  let year := yearOf count
  let dayOfYear := (count - daysBeforeYear year).toNat
  let month := monthOf (isLeap year) dayOfYear
  ⟨year, month, dayOfYear - daysBeforeMonth (isLeap year) month + 1⟩

def toDay (d : Date) : Int :=
  daysBeforeYear d.year + (daysBeforeMonth (isLeap d.year) d.month : Int) + (d.day : Int) - 1 - epochDay

/-- Whether a date is on the calendar and within the years that are kept. -/
def isValid (d : Date) : Bool :=
  firstYear ≤ d.year && d.year ≤ lastYear && 1 ≤ d.month && d.month ≤ 12 && 1 ≤ d.day &&
    d.day ≤ daysInMonth (isLeap d.year) d.month

/-- The date some months later, on the last day of the month where the day does not exist. -/
def addMonths (d : Date) (months : Nat) : Date :=
  let total := d.month - 1 + months
  let year := d.year + (total / 12 : Nat)
  let month := total % 12 + 1
  ⟨year, month, min d.day (daysInMonth (isLeap year) month)⟩

end Date

namespace Calendar

def firstDay : Int := Date.toDay ⟨firstYear, 1, 1⟩
def lastDay : Int := Date.toDay ⟨lastYear, 12, 31⟩

end Calendar

end Analytics
