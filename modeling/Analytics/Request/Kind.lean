/-!
The closed choices of a request, and the words for them.
-/

namespace Analytics

inductive InsightType where
  | internal
  | longTable
  | wideTable
  deriving DecidableEq, Repr, Inhabited

namespace InsightType

def name : InsightType → String
  | .internal => "internal"
  | .longTable => "warehouse-long"
  | .wideTable => "warehouse-wide"

/-- Every accepted spelling. -/
def named? (s : String) : Option InsightType :=
  if s = "internal" then some .internal
  else if s = "warehouse-long" || s = "longTable" || s = "warehouse_long" then some .longTable
  else if s = "warehouse-wide" || s = "wideTable" || s = "warehouse_wide" then some .wideTable
  else none

end InsightType

/-- The type a request gives to a field's values. -/
inductive ValueType where
  | string
  | number
  | date
  | other
  deriving DecidableEq, Repr, Inhabited

namespace ValueType

def name : ValueType → String
  | .string => "string"
  | .number => "number"
  | .date => "date"
  | .other => "other"

def named (s : String) : ValueType :=
  if s = "string" then .string
  else if s = "number" then .number
  else if s = "date" then .date
  else .other

end ValueType

inductive MetricMath where
  | events
  | sessions
  deriving DecidableEq, Repr, Inhabited

namespace MetricMath

def name : MetricMath → String
  | .events => "events"
  | .sessions => "sessions"

def named? (s : String) : Option MetricMath :=
  if s = "events" then some .events
  else if s = "sessions" then some .sessions
  else none

end MetricMath

inductive Direction where
  | ascending
  | descending
  deriving DecidableEq, Repr, Inhabited

namespace Direction

def name : Direction → String
  | .ascending => "asc"
  | .descending => "desc"

def named? (s : String) : Option Direction :=
  if s = "asc" then some .ascending
  else if s = "desc" then some .descending
  else none

end Direction

/-- How a source stores event times. -/
inductive TimestampEncoding where
  /-- Seconds from the start of 1970. -/
  | timestamp
  /-- Milliseconds from the start of 1970. -/
  | timestampMs
  /-- A local calendar date as text. -/
  | date
  /-- A date and clock as text, in universal time. -/
  | datetime
  deriving DecidableEq, Repr, Inhabited

namespace TimestampEncoding

def name : TimestampEncoding → String
  | .timestamp => "timestamp"
  | .timestampMs => "timestampMs"
  | .date => "date"
  | .datetime => "datetime"

def named? (s : String) : Option TimestampEncoding :=
  if s = "timestamp" then some .timestamp
  else if s = "timestampMs" then some .timestampMs
  else if s = "date" then some .date
  else if s = "datetime" then some .datetime
  else none

end TimestampEncoding

def allEvent : String := "$all_event"

end Analytics
