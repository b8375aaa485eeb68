import Analytics.Json.Record
import Analytics.Request.Query
import Analytics.Time.Reading
import Analytics.Time.Writing

/-!
Requests as JSON documents: how they are read, and how they are written back.
-/

namespace Analytics

open Json (Read readRecord required withDefault readText readWord readAny readOption readList
  readChoice isNull)

namespace InsightType

def read : Json → Read InsightType := readChoice isNull named?

def toJson (t : InsightType) : Json := .text t.name

end InsightType

namespace ValueType

def read : Json → Read ValueType := readChoice isNull (some ∘ named)

def toJson (t : ValueType) : Json := .text t.name

end ValueType

namespace MetricMath

def read : Json → Read MetricMath := readChoice isNull named?

def toJson (m : MetricMath) : Json := .text m.name

end MetricMath

namespace Direction

def read : Json → Read Direction := readChoice isNull named?

def toJson (o : Direction) : Json := .text o.name

end Direction

namespace TimestampEncoding

def read : Json → Read TimestampEncoding := readChoice isNull named?

def toJson (e : TimestampEncoding) : Json := .text e.name

end TimestampEncoding

namespace Instant

/-- An instant of a request: text in the relaxed form, or whole epoch milliseconds. -/
def read (value : Json) : Read Instant :=
  let found := match value with
    | .text s => TimeReading.relaxed? s.toList
    | other => other.toWord?.bind ofMillis?
  match found with
  | some t => .ok t
  | none => .error .unfit

def toJson (t : Instant) : Json := .text t.rfc3339

end Instant

namespace RequestedFilter

def fieldNames : List String := ["name", "type", "operator", "value"]

def read : Json → Read RequestedFilter := readRecord fieldNames fun members => do
  let name ← required members "name" readText
  let type ← required members "type" ValueType.read
  let operator ← required members "operator" readText
  let operand ← withDefault members "value" .null readAny
  pure ⟨name, type, operator, operand⟩

def toJson (f : RequestedFilter) : Json :=
  .object [("name", .text f.name), ("operator", .text f.operator), ("type", f.type.toJson),
    ("value", f.value)]

end RequestedFilter

namespace RequestedBucket

def fieldNames : List String := ["filterOperator", "filterValue"]

def read : Json → Read RequestedBucket := readRecord fieldNames fun members => do
  let operator ← required members "filterOperator" readText
  let operand ← required members "filterValue" readAny
  pure ⟨operator, operand⟩

def toJson (b : RequestedBucket) : Json :=
  .object [("filterOperator", .text b.operator), ("filterValue", b.value)]

end RequestedBucket

namespace RequestedGroup

def fieldNames : List String := ["value", "type", "customGroups"]

def read : Json → Read RequestedGroup := readRecord fieldNames fun members => do
  let field ← required members "value" readText
  let type ← required members "type" ValueType.read
  let buckets ← withDefault members "customGroups" [] (readList RequestedBucket.read)
  pure ⟨field, type, buckets⟩

/-- A group without buckets does not mention them. -/
def toJson (g : RequestedGroup) : Json :=
  let buckets := match g.buckets with
    | [] => []
    | specs => [("customGroups", Json.array (specs.map RequestedBucket.toJson))]
  .object (buckets ++ [("type", g.type.toJson), ("value", .text g.field)])

end RequestedGroup

namespace RequestedMetric

def fieldNames : List String := ["name", "math"]

def read : Json → Read RequestedMetric := readRecord fieldNames fun members => do
  let name ← required members "name" readText
  let math ← required members "math" MetricMath.read
  pure ⟨name, math⟩

def toJson (m : RequestedMetric) : Json := .object [("math", m.math.toJson), ("name", .text m.name)]

end RequestedMetric

namespace RequestedSpan

def fieldNames : List String := ["startAt", "endAt", "unit", "timezone"]

def read : Json → Read RequestedSpan := readRecord fieldNames fun members => do
  let start ← required members "startAt" Instant.read
  let finish ← required members "endAt" Instant.read
  let unit ← required members "unit" readText
  let zone ← withDefault members "timezone" "UTC" readText
  pure ⟨start, finish, unit, zone⟩

def toJson (t : RequestedSpan) : Json :=
  .object [("endAt", t.finish.toJson), ("startAt", t.start.toJson), ("timezone", .text t.zone),
    ("unit", .text t.unit)]

end RequestedSpan

namespace InsightQuery

def fieldNames : List String := ["insightId", "insightType", "time", "metrics", "filters", "groups"]

def read : Json → Read InsightQuery := readRecord fieldNames fun members => do
  let insightId ← required members "insightId" readText
  let insightType ← required members "insightType" InsightType.read
  let time ← required members "time" RequestedSpan.read
  let metrics ← required members "metrics" (readList RequestedMetric.read)
  let filters ← withDefault members "filters" [] (readList RequestedFilter.read)
  let groups ← withDefault members "groups" [] (readList RequestedGroup.read)
  pure ⟨insightId, insightType, time, metrics, filters, groups⟩

def toJson (q : InsightQuery) : Json :=
  .object [("filters", .array (q.filters.map RequestedFilter.toJson)),
    ("groups", .array (q.groups.map RequestedGroup.toJson)), ("insightId", .text q.insightId),
    ("insightType", q.insightType.toJson), ("metrics", .array (q.metrics.map RequestedMetric.toJson)),
    ("time", q.time.toJson)]

end InsightQuery

namespace TimeRange

def fieldNames : List String := ["startAt", "endAt"]

def read : Json → Read TimeRange := readRecord fieldNames fun members => do
  let start ← required members "startAt" Instant.read
  let finish ← required members "endAt" Instant.read
  pure ⟨start, finish⟩

def toJson (r : TimeRange) : Json :=
  .object [("endAt", r.finish.toJson), ("startAt", r.start.toJson)]

end TimeRange

namespace EventListRequest

def fieldNames : List String := ["insightId", "filters", "limit", "cursor", "order", "time"]

def read : Json → Read EventListRequest := readRecord fieldNames fun members => do
  let insightId ← required members "insightId" readText
  let filters ← withDefault members "filters" [] (readList RequestedFilter.read)
  let limit ← withDefault members "limit" none (readOption readWord)
  let cursor ← withDefault members "cursor" none (readOption readText)
  let order ← withDefault members "order" .descending Direction.read
  let time ← withDefault members "time" none (readOption TimeRange.read)
  pure ⟨insightId, filters, limit, cursor, order, time⟩

def toJson (r : EventListRequest) : Json :=
  .object [("cursor", .ofOption .text r.cursor),
    ("filters", .array (r.filters.map RequestedFilter.toJson)), ("insightId", .text r.insightId),
    ("limit", .ofOption .int r.limit), ("order", r.order.toJson),
    ("time", .ofOption TimeRange.toJson r.time)]

end EventListRequest

end Analytics
