import Analytics.Request.Kind
import Analytics.Text.Escape

/-!
What can go wrong with a request, by cause, and what each cause says to a client.
-/

namespace Analytics

/-- Faults of a name that would stand in a statement. -/
inductive IdentFault where
  | empty
  | forbidden (raw : String) (character : Char)
  | tooLong (raw : String)
  deriving DecidableEq, Repr

def maxIdentBytes : Nat := 63

namespace IdentFault

def message : IdentFault → String
  | .empty => "identifier must not be empty"
  | .forbidden raw character =>
    "'" ++ Text.escape raw ++ "' contains forbidden character " ++ Text.quoteChar character
  | .tooLong raw => "'" ++ raw ++ "' exceeds " ++ toString maxIdentBytes ++ " bytes"

end IdentFault

inductive RequestFault where
  | epochMillis (written : String)
  | dateLiteral (raw : String)
  | notADate (written : String)
  | startAfterEnd
  | tooManyBuckets (limit : Nat)
  | notAScalar (written : String)
  | notANumber (written : String)
  | badNumber (raw : String)
  | notARange
  | notAList
  | duplicateGroup (column : String)
  | noMetric
  | metricTwice (name : String) (math : MetricMath)
  | metricNamedDate
  | unknownInternalField (field : String)
  | unknownWideField (field application : String)
  | noEventName (metric : String)
  | noSession (metric : String)
  | noEventNameForAny
  | cursor
  | cursorPayload
  deriving DecidableEq, Repr

namespace RequestFault

def message : RequestFault → String
  | .epochMillis written => "invalid epoch milliseconds " ++ written
  | .dateLiteral raw => "invalid date literal '" ++ raw ++ "'"
  | .notADate written => "expected a date value, got " ++ written
  | .startAfterEnd => "time range start must be before end"
  | .tooManyBuckets limit =>
    "time range produces more than " ++ toString limit ++ " buckets; use a coarser unit"
  | .notAScalar written => "expected a scalar filter value, got " ++ written
  | .notANumber written => "expected a numeric filter value, got " ++ written
  | .badNumber raw => "invalid numeric value '" ++ raw ++ "'"
  | .notARange => "between requires a two-element [low, high] value"
  | .notAList => "in/not-in requires a list value"
  | .duplicateGroup column => "duplicate group column '" ++ column ++ "'"
  | .noMetric => "at least one metric is required"
  | .metricTwice name math => "metric '" ++ name ++ "' (" ++ math.name ++ ") requested twice"
  | .metricNamedDate => "'date' cannot be used as a metric name"
  | .unknownInternalField field => "unknown field '" ++ field ++ "' for internal insights"
  | .unknownWideField field application =>
    "unknown field '" ++ field ++ "' for application '" ++ application ++ "'"
  | .noEventName metric =>
    "metric '" ++ metric ++ "' needs an event name column on this source"
  | .noSession metric =>
    "sessions math for '" ++ metric ++ "' needs a session column on this source"
  | .noEventNameForAny => "named metrics need an event name column on this source"
  | .cursor => "invalid cursor"
  | .cursorPayload => "invalid cursor payload"

end RequestFault

/-- Faults of the list of applications. -/
inductive ApplicationsFault where
  | malformed
  | emptyName
  | duplicate (type : InsightType) (name : String)
  deriving DecidableEq, Repr

namespace ApplicationsFault

/-- A malformed list is not described: what is wrong with it stays with the operator. -/
def detail? : ApplicationsFault → Option String
  | .malformed => none
  | .emptyName => some "application name must not be empty"
  | .duplicate type name =>
    some ("duplicate " ++ type.name ++ " application '" ++ name ++ "'")

end ApplicationsFault

inductive StoreFault where
  | unsupportedScheme
  | cannotOpenFile
  | connectionText (detail : String)
  | connectionOption (name : String)
  deriving DecidableEq, Repr

namespace StoreFault

def message : StoreFault → String
  | .unsupportedScheme => "unsupported connection string scheme"
  | .cannotOpenFile => "failed to open sqlite database"
  | .connectionText detail =>
    "invalid postgres connection string: invalid connection string: " ++ detail
  | .connectionOption name =>
    "invalid postgres connection string: invalid connection string: invalid value for option \x60"
      ++ name ++ "\x60"

end StoreFault

inductive Unavailability where
  | disabled
  | noConnection
  | pool (fault : StoreFault)
  | store (fault : StoreFault)
  deriving DecidableEq, Repr

namespace Unavailability

def message : Unavailability → String
  | .disabled => "warehouse backends are disabled"
  | .noConnection => "no warehouse connection configured"
  | .pool fault => "store unavailable: " ++ fault.message
  | .store fault => fault.message

end Unavailability

inductive Error where
  | request (fault : RequestFault)
  | identifier (fault : IdentFault)
  | unsupportedOperator (operator : String) (type : ValueType)
  | unknownUnit (raw : String)
  | unknownZone (raw : String)
  | applicationNotFound (insightId : String) (type : InsightType)
  | applications (fault : ApplicationsFault)
  | unavailable (type : InsightType) (why : Unavailability)
  | statementFailed (insightId : String) (type : InsightType)
  | internal
  /-- No answer at all: the program stops at a value that it cannot hold. -/
  | stopped
  deriving DecidableEq, Repr

abbrev Checked (α : Type) := Except Error α

namespace Error

def message : Error → String
  | .request fault => "invalid request: " ++ fault.message
  | .identifier fault => "invalid identifier: " ++ fault.message
  | .unsupportedOperator operator type =>
    "unsupported operator '" ++ operator ++ "' for " ++ type.name ++ " values"
  | .unknownUnit raw => "invalid time unit '" ++ raw ++ "'"
  | .unknownZone raw => "invalid timezone '" ++ raw ++ "'"
  | .applicationNotFound insightId type =>
    "application not found: " ++ type.name ++ " insight '" ++ insightId ++ "'"
  | .applications fault =>
    match fault.detail? with
    | some detail => "invalid application config: " ++ detail
    | none => "invalid application config"
  | .unavailable type why => "backend unavailable: " ++ type.name ++ ": " ++ why.message
  | .statementFailed insightId type =>
    "statement execution failed for " ++ type.name ++ " insight '" ++ insightId
      ++ "': failed to prepare statement"
  | .internal => "internal error"
  | .stopped => ""

def status : Error → Nat
  | .request _ => 400
  | .identifier _ => 400
  | .unsupportedOperator .. => 400
  | .unknownUnit _ => 400
  | .unknownZone _ => 400
  | .applicationNotFound .. => 404
  | .applications _ => 500
  | .unavailable .. => 503
  | .statementFailed .. => 502
  | .internal => 500
  | .stopped => 0

end Error

end Analytics
