import Analytics.Time.Instant

/-!
Time zones. A zone is a name and its offsets from universal time: one before the first transition,
and the one that each transition sets.
-/

namespace Analytics

structure Transition where
  /-- Seconds from the start of 1970 in universal time. -/
  at_ : Int
  /-- Seconds ahead of universal time from then on. -/
  offset : Int
  deriving DecidableEq, Repr

structure Zone where
  name : String
  initial : Int
  transitions : List Transition
  deriving DecidableEq, Repr

namespace Zone

def offsetFrom (current : Int) (seconds : Int) : List Transition → Int
  | [] => current
  | t :: rest => if t.at_ ≤ seconds then offsetFrom t.offset seconds rest else current

/-- Seconds that local clocks are ahead of universal time at a second. -/
def offsetAt (z : Zone) (seconds : Int) : Int := offsetFrom z.initial seconds z.transitions

/-- The reading of local clocks at an instant. -/
def wallTime (z : Zone) (t : Instant) : WallTime := t.toWall (z.offsetAt t.seconds)

def reading? (z : Zone) (t : Instant) : Option WallTime :=
  if Instant.inRange t.seconds && (z.wallTime t).inRange then some (z.wallTime t) else none

def localDay (z : Zone) (t : Instant) : Int := (z.wallTime t).day

def utc : Zone := ⟨"UTC", 0, []⟩

end Zone

end Analytics
