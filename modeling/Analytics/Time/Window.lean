import Analytics.Time.Unit
import Analytics.Zone.Database

/-!
Time windows: the half-open span of a request, its bucket unit, and the zone whose clocks cut the
buckets. `labels` lists the buckets that the window covers.
-/

namespace Analytics

namespace Zone

def parse (raw : String) : Checked Zone :=
  let name := Text.trim raw
  if name.isEmpty then .ok utc
  else match named? name with
    | some zone => .ok zone
    | none => .error (.unknownZone raw)

end Zone

structure Window where
  start : Instant
  finish : Instant
  unit : TimeUnit
  zone : Zone
  ordered : start ≤ finish

namespace Window

def new? (start finish : Instant) (unit : TimeUnit) (zone : Zone) : Checked Window :=
  if h : start ≤ finish then .ok ⟨start, finish, unit, zone, h⟩
  else .error (.request .startAfterEnd)

def lastsDay (w : Window) : Bool :=
  (86400 * nanosPerSecond : Int) ≤ Instant.nanosBetween w.start w.finish

def atMidnight (t : WallTime) : Bool := t.secondOfDay = 0 && t.nanos = 0

def meetsMidnight (w : Window) : Bool :=
  atMidnight (w.zone.wallTime w.start) && atMidnight (w.zone.wallTime w.finish)

/-- Whole minutes of the offset at the window's start, for stores without zones of their own. -/
def offsetMinutes (w : Window) : Int := (w.zone.offsetAt w.start.seconds).tdiv 60

def lastInstant (w : Window) : Instant :=
  if w.start < w.finish then w.finish.beforeMilli else w.finish

def dateBounds (w : Window) : Date × Date :=
  ((w.zone.wallTime w.start).date, (w.zone.wallTime w.lastInstant).date)

def showsDates (w : Window) : Bool :=
  (w.zone.reading? w.start).isSome && (w.zone.reading? w.lastInstant).isSome

/-- Labels from a bucket's start on, while the start is not past `last`; none if there are more than
the limit. -/
def labelsFrom (unit : TimeUnit) (last : WallTime) : Nat → WallTime → Option (List String)
  | 0, cursor => if cursor ≤ last then none else some []
  | limit + 1, cursor =>
    if cursor ≤ last then
      match unit.step cursor with
      | some next => (labelsFrom unit last limit next).map (unit.label cursor :: ·)
      | none => some [unit.label cursor]
    else some []

/-- The label of every bucket that the window covers, in order. The program stops where local clocks
leave the years that are kept. -/
def labels (w : Window) (limit : Nat) : Checked (List String) :=
  if w.start = w.finish then .ok []
  else match w.zone.reading? w.start, w.zone.reading? w.finish.beforeMilli with
    | some first, some last =>
      match labelsFrom w.unit last limit (w.unit.truncate first) with
      | some labels => .ok labels
      | none => .error (.request (.tooManyBuckets limit))
    | _, _ => .error .stopped

end Window

end Analytics
