import Analytics.Sql.Predicate
import Analytics.Time.Window

/-!
Event times in statements: the bucket label of a time column, the range predicate of a window, and
the date column that stands in for the time column where a window is made of whole local days.
-/

namespace Analytics

/-- The bucket label of a time column, as the stores compute it. -/
structure BucketLabel (κ : Type) where
  column : κ
  encoding : TimestampEncoding
  unit : TimeUnit
  /-- The zone's name, for stores that know zones. -/
  zone : String
  /-- Minutes added to universal time, for stores that do not. -/
  shift : Int
  deriving Repr

namespace BucketLabel

def strftimePattern : TimeUnit → String
  | .minute => "%Y-%m-%d %H:%M:00"
  | .hour => "%Y-%m-%d %H:00:00"
  | .day => "%Y-%m-%d"
  | .month => "%Y-%m-01"
  | .year => "%Y-01-01"

def toCharPattern : TimeUnit → String
  | .minute => "YYYY-MM-DD HH24:MI:00"
  | .hour => "YYYY-MM-DD HH24:00:00"
  | .day => "YYYY-MM-DD"
  | .month => "YYYY-MM-01"
  | .year => "YYYY-01-01"

def shiftText (minutes : Int) : String :=
  (if minutes < 0 then "-" else "+") ++ toString minutes.natAbs ++ " minutes"

def zonedClock (encoding : TimestampEncoding) (zone column : String) : String :=
  match encoding with
  | .timestamp => "(to_timestamp(" ++ column ++ ") AT TIME ZONE '" ++ zone ++ "')"
  | .timestampMs => "(to_timestamp(" ++ column ++ " / 1000.0) AT TIME ZONE '" ++ zone ++ "')"
  | .datetime =>
    "((CAST(" ++ column ++ " AS timestamp) AT TIME ZONE 'UTC') AT TIME ZONE '" ++ zone ++ "')"
  | .date => "CAST(" ++ column ++ " AS date)"

def shiftedClock (encoding : TimestampEncoding) (shift : Int) (column : String) : String :=
  match encoding with
  | .timestamp => "datetime(" ++ column ++ ", 'unixepoch', '" ++ shiftText shift ++ "')"
  | .timestampMs => "datetime(" ++ column ++ " / 1000, 'unixepoch', '" ++ shiftText shift ++ "')"
  | .datetime => "datetime(" ++ column ++ ", '" ++ shiftText shift ++ "')"
  | .date => "date(" ++ column ++ ")"

def render {κ : Type} (name : κ → String) (d : Dialect) (l : BucketLabel κ) : String :=
  match d with
  | .postgres =>
    "to_char(" ++ zonedClock l.encoding l.zone (name l.column) ++ ", '" ++ toCharPattern l.unit
      ++ "')"
  | .sqlite =>
    "strftime('" ++ strftimePattern l.unit ++ "', "
      ++ shiftedClock l.encoding l.shift (name l.column) ++ ")"

def ofWindow {κ : Type} (column : κ) (encoding : TimestampEncoding) (w : Window) : BucketLabel κ :=
  ⟨column, encoding, w.unit, w.zone.name, w.offsetMinutes⟩

end BucketLabel

namespace TimeRange

def secondsUp (t : Instant) : Int := if 0 < t.nanos then t.seconds + 1 else t.seconds

def millisUp (t : Instant) : Int :=
  if 0 < t.nanos % 1000000 then t.toMillis + 1 else t.toMillis

def halfOpen {κ : Type} (left low high : Scalar κ) : Predicate κ :=
  .both (.compare .atLeast left low) (.compare .less left high)

/-- The rows of a window. Date columns are compared with the local dates of its first and last
instants, both included. -/
def predicate {κ : Type} (column : κ) (encoding : TimestampEncoding) (w : Window) : Predicate κ :=
  match encoding with
  | .timestamp =>
    halfOpen (.column column) (.bound (.int w.start.seconds)) (.bound (.int (secondsUp w.finish)))
  | .timestampMs =>
    halfOpen (.column column) (.bound (.int w.start.toMillis)) (.bound (.int (millisUp w.finish)))
  | .datetime =>
    halfOpen (.timestamp (.column column)) (.timestamp (.bound (.text w.start.dateTimeText)))
      (.timestamp (.bound (.text w.finish.dateTimeText)))
  | .date =>
    .both
      (.compare .atLeast (.date (.column column)) (.date (.bound (.text w.dateBounds.1.text))))
      (.compare .atMost (.date (.column column)) (.date (.bound (.text w.dateBounds.2.text))))

end TimeRange

/-- The event times of a source: a time column and, perhaps, a column of its local dates. -/
structure DateSource (κ : Type) where
  column : κ
  encoding : TimestampEncoding
  dateColumn : Option κ
  /-- The zone whose calendar the dates are in. -/
  dateZone : Zone

namespace DateSource

variable {κ : Type}

/-- Whether a window is one of whole days of the date column's own zone, in buckets of days or
longer. -/
def suitsDates (s : DateSource κ) (w : Window) : Bool :=
  !w.unit.isWithinDay && w.lastsDay && w.zone.name = s.dateZone.name && w.meetsMidnight

def chosen (s : DateSource κ) (w : Window) : κ × TimestampEncoding :=
  match s.dateColumn with
  | some dates => if s.suitsDates w then (dates, .date) else (s.column, s.encoding)
  | none => (s.column, s.encoding)

def readsDates (s : DateSource κ) (w : Window) : Bool :=
  s.dateColumn.isSome && s.suitsDates w

def label (s : DateSource κ) (w : Window) : BucketLabel κ :=
  .ofWindow (s.chosen w).1 (s.chosen w).2 w

def range (s : DateSource κ) (w : Window) : Predicate κ :=
  TimeRange.predicate (s.chosen w).1 (s.chosen w).2 w

end DateSource

end Analytics
