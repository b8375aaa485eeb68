import Analytics.Json.Value
import Analytics.Request.Kind
import Analytics.Time.Instant

/-!
Requests: what a client asks for, before any of it is checked.
-/

namespace Analytics

structure RequestedFilter where
  name : String
  type : ValueType
  operator : String
  value : Json
  deriving Repr, BEq

structure RequestedBucket where
  operator : String
  value : Json
  deriving Repr, BEq

/-- A field to group by: its values, or buckets of them where buckets are given. -/
structure RequestedGroup where
  field : String
  type : ValueType
  buckets : List RequestedBucket
  deriving Repr, BEq

structure RequestedMetric where
  name : String
  math : MetricMath
  deriving DecidableEq, Repr

structure RequestedSpan where
  start : Instant
  finish : Instant
  unit : String
  zone : String
  deriving DecidableEq, Repr

structure InsightQuery where
  insightId : String
  insightType : InsightType
  time : RequestedSpan
  metrics : List RequestedMetric
  filters : List RequestedFilter
  groups : List RequestedGroup
  deriving Repr, BEq

structure TimeRange where
  start : Instant
  finish : Instant
  deriving DecidableEq, Repr

/-- A request for the events of an internal insight, page by page. -/
structure EventListRequest where
  insightId : String
  filters : List RequestedFilter
  limit : Option Int
  cursor : Option String
  order : Direction
  time : Option TimeRange
  deriving Repr, BEq

end Analytics
