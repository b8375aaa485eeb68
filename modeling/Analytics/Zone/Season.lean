import Analytics.Time.Calendar

/-!
Seasonal clock changes: on which day of a year, and at which time of which clock, a saving begins.
-/

namespace Analytics.Zone

inductive DayRule where
  | on (day : Nat)
  | last (weekday : Nat)
  | onOrAfter (weekday day : Nat)
  | onOrBefore (weekday day : Nat)
  deriving DecidableEq, Repr

/-- The clock that shows a change's time: local clocks, local standard time, or universal time. -/
inductive Clock where
  | wall
  | standard
  | universal
  deriving DecidableEq, Repr

structure SeasonRule where
  firstYear : Nat
  lastYear : Nat
  month : Nat
  day : DayRule
  time : Int
  clock : Clock
  saving : Int
  deriving DecidableEq, Repr

namespace DayRule

def toDay (year : Int) (month : Nat) : DayRule → Int
  | .on day => Date.toDay ⟨year, month, day⟩
  | .last weekday =>
    let final := Date.toDay ⟨year, month, Calendar.daysInMonth (Calendar.isLeap year) month⟩
    final - (Calendar.weekday final - weekday) % 7
  | .onOrAfter weekday day =>
    let start := Date.toDay ⟨year, month, day⟩
    start + (weekday - Calendar.weekday start) % 7
  | .onOrBefore weekday day =>
    let start := Date.toDay ⟨year, month, day⟩
    start - (Calendar.weekday start - weekday) % 7

end DayRule

structure Cutoff where
  reading : Int
  clock : Clock
  deriving DecidableEq, Repr

namespace Cutoff

/-- The universal time of a cutoff, given the standard offset and the saving in force. -/
def seconds (c : Cutoff) (standard saving : Int) : Int :=
  match c.clock with
  | .wall => c.reading - (standard + saving)
  | .standard => c.reading - standard
  | .universal => c.reading

end Cutoff

structure Change where
  cutoff : Cutoff
  saving : Int
  deriving DecidableEq, Repr

namespace SeasonRule

def holdsIn (r : SeasonRule) (year : Nat) : Bool := r.firstYear ≤ year && year ≤ r.lastYear

def change (r : SeasonRule) (year : Nat) : Change :=
  ⟨⟨r.day.toDay year r.month * 86400 + r.time, r.clock⟩, r.saving⟩

end SeasonRule

def tableEnd : Nat := 2100

def insertChange (c : Change) : List Change → List Change
  | [] => [c]
  | d :: rest =>
    if c.cutoff.reading < d.cutoff.reading then c :: d :: rest else d :: insertChange c rest

def changesIn (rules : List SeasonRule) (year : Nat) : List Change :=
  ((rules.filter (·.holdsIn year)).map (·.change year)).foldl (fun sorted c => insertChange c sorted) []

def changes (rules : List SeasonRule) : List Change :=
  let first := rules.foldl (fun least r => min least r.firstYear) tableEnd
  (List.range (tableEnd - first)).flatMap fun k => changesIn rules (first + k)

end Analytics.Zone
