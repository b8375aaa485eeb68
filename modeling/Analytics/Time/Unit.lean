import Analytics.Error
import Analytics.Text.Blank
import Analytics.Time.Writing

/-!
Bucket units. A unit cuts wall time into buckets: `truncate` gives the start of the bucket that holds
a reading, `step` the start of the next one, and `label` the text that names the bucket.
-/

namespace Analytics

inductive TimeUnit where
  | minute
  | hour
  | day
  | month
  | year
  deriving DecidableEq, Repr, Inhabited

namespace TimeUnit

def name : TimeUnit → String
  | .minute => "minute"
  | .hour => "hour"
  | .day => "day"
  | .month => "month"
  | .year => "year"

def named? (s : String) : Option TimeUnit :=
  if s = "minute" then some .minute
  else if s = "hour" then some .hour
  else if s = "day" then some .day
  else if s = "month" then some .month
  else if s = "year" then some .year
  else none

/-- The unit of a word in any case, with blanks around it. -/
def parse (raw : String) : Checked TimeUnit :=
  match named? (Text.lower (Text.trim raw)) with
  | some unit => .ok unit
  | none => .error (.unknownUnit raw)

def isWithinDay : TimeUnit → Bool
  | .minute => true
  | .hour => true
  | _ => false

def truncate (unit : TimeUnit) (t : WallTime) : WallTime :=
  match unit with
  | .minute => ⟨t.seconds - t.seconds % 60, 0⟩
  | .hour => ⟨t.seconds - t.seconds % 3600, 0⟩
  | .day => ⟨t.seconds - t.seconds % 86400, 0⟩
  | .month => WallTime.ofDate { t.date with day := 1 }
  | .year => WallTime.ofDate ⟨t.date.year, 1, 1⟩

def addSeconds (t : WallTime) (span : Int) : WallTime :=
  ⟨t.seconds + span, if nanosPerSecond ≤ t.nanos then t.nanos - nanosPerSecond else t.nanos⟩

def addMonths (t : WallTime) (months : Nat) : WallTime :=
  ⟨(t.date.addMonths months).toDay * 86400 + (t.secondOfDay : Nat), t.nanos⟩

def next (unit : TimeUnit) (t : WallTime) : WallTime :=
  match unit with
  | .minute => addSeconds t 60
  | .hour => addSeconds t 3600
  | .day => addSeconds t 86400
  | .month => addMonths t 1
  | .year => addMonths t 12

/-- One unit later, unless that is past the years that are kept. -/
def step (unit : TimeUnit) (t : WallTime) : Option WallTime :=
  if (unit.next t).inRange then some (unit.next t) else none

def label (unit : TimeUnit) (t : WallTime) : String :=
  match unit with
  | .minute => t.date.text ++ " " ++ padded 2 t.hour ++ ":" ++ padded 2 t.minute ++ ":00"
  | .hour => t.date.text ++ " " ++ padded 2 t.hour ++ ":00:00"
  | .day => t.date.text
  | .month => yearText t.date.year ++ "-" ++ padded 2 t.date.month ++ "-01"
  | .year => yearText t.date.year ++ "-01-01"

end TimeUnit

end Analytics
