import Analytics.Time.Calendar

/-!
Points of time. An `Instant` counts seconds from the start of 1970 in universal time, and nanoseconds
within the second; nanoseconds from 10^9 on are the leap second that follows it. A `WallTime` is the
same kind of count, read off a local clock.
-/

namespace Analytics

def nanosPerSecond : Nat := 1000000000

structure Instant where
  seconds : Int
  nanos : Nat
  deriving DecidableEq, Repr, Inhabited

structure WallTime where
  seconds : Int
  nanos : Nat
  deriving DecidableEq, Repr, Inhabited

namespace Instant

protected def le (a b : Instant) : Prop :=
  a.seconds < b.seconds ∨ (a.seconds = b.seconds ∧ a.nanos ≤ b.nanos)

instance : LE Instant := ⟨Instant.le⟩

instance (a b : Instant) : Decidable (a ≤ b) :=
  inferInstanceAs (Decidable (_ ∨ _))

protected def lt (a b : Instant) : Prop :=
  a.seconds < b.seconds ∨ (a.seconds = b.seconds ∧ a.nanos < b.nanos)

instance : LT Instant := ⟨Instant.lt⟩

instance (a b : Instant) : Decidable (a < b) :=
  inferInstanceAs (Decidable (_ ∨ _))

/-- Whether the second is within the years that are kept. -/
def inRange (seconds : Int) : Bool :=
  Calendar.firstDay * 86400 ≤ seconds && seconds < (Calendar.lastDay + 1) * 86400

def ofMillis? (millis : Int) : Option Instant :=
  let seconds := millis / 1000
  if inRange seconds then some ⟨seconds, (millis % 1000).toNat * 1000000⟩ else none

/-- Whole milliseconds; a leap second counts on past the thousandth one. -/
def toMillis (t : Instant) : Int := t.seconds * 1000 + (t.nanos / 1000000 : Nat)

/-- Whether the nanoseconds point into a leap second. -/
def isLeap (t : Instant) : Bool := nanosPerSecond ≤ t.nanos

def beforeMilli (t : Instant) : Instant :=
  if 1000000 ≤ t.nanos then ⟨t.seconds, t.nanos - 1000000⟩
  else ⟨t.seconds - 1, t.nanos + nanosPerSecond - 1000000⟩

def nanosBetween (a b : Instant) : Int :=
  let secondOfDay (t : Instant) := t.seconds % 86400
  let leap : Int :=
    if secondOfDay a < secondOfDay b ∧ a.isLeap then 1
    else if secondOfDay b < secondOfDay a ∧ b.isLeap then -1
    else 0
  (b.seconds - a.seconds + leap) * nanosPerSecond + ((b.nanos : Int) - (a.nanos : Int))

/-- The reading of a clock that is `offset` seconds ahead of universal time. -/
def toWall (t : Instant) (offset : Int) : WallTime := ⟨t.seconds + offset, t.nanos⟩

end Instant

namespace WallTime

protected def le (a b : WallTime) : Prop :=
  a.seconds < b.seconds ∨ (a.seconds = b.seconds ∧ a.nanos ≤ b.nanos)

instance : LE WallTime := ⟨WallTime.le⟩

instance (a b : WallTime) : Decidable (a ≤ b) :=
  inferInstanceAs (Decidable (_ ∨ _))

protected def lt (a b : WallTime) : Prop :=
  a.seconds < b.seconds ∨ (a.seconds = b.seconds ∧ a.nanos < b.nanos)

instance : LT WallTime := ⟨WallTime.lt⟩

instance (a b : WallTime) : Decidable (a < b) :=
  inferInstanceAs (Decidable (_ ∨ _))

def day (t : WallTime) : Int := t.seconds / 86400

def date (t : WallTime) : Date := Date.ofDay t.day

def secondOfDay (t : WallTime) : Nat := (t.seconds % 86400).toNat

def hour (t : WallTime) : Nat := t.secondOfDay / 3600

def minute (t : WallTime) : Nat := t.secondOfDay / 60 % 60

/-- The second of the minute; a leap second is number 60. -/
def second (t : WallTime) : Nat := t.secondOfDay % 60 + t.nanos / nanosPerSecond

def ofDate (d : Date) : WallTime := ⟨d.toDay * 86400, 0⟩

/-- Whether the reading is within the years that are kept. -/
def inRange (t : WallTime) : Bool := Instant.inRange t.seconds

def toInstant (t : WallTime) (offset : Int) : Instant := ⟨t.seconds - offset, t.nanos⟩

end WallTime

end Analytics
