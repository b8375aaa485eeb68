import Analytics.Group.Plan
import Analytics.Time.Window

/-!
Checked requests for series. Everything that can be refused without knowing the source is refused
here, in a fixed order: unit, zone, window, number of buckets, metrics, filters, groups.
-/

namespace Analytics

structure PlannedMetric where
  name : String
  math : MetricMath
  title : Ident
  deriving Repr

namespace PlannedMetric

def countsEvery (m : PlannedMetric) : Bool := m.name = allEvent

end PlannedMetric

structure PlannedFilter where
  field : String
  type : ValueType
  operator : FilterOperator
  value : Json
  deriving Repr

structure QueryPlan where
  insightId : String
  insightType : InsightType
  window : Window
  /-- The labels of the window's buckets. -/
  buckets : List String
  metrics : List PlannedMetric
  filters : List PlannedFilter
  groups : List GroupPlan

namespace QueryPlan

def countsEvery (p : QueryPlan) : Bool := p.metrics.any (·.countsEvery)

def distinctNames (seen : List String) : List String → List String
  | [] => []
  | name :: rest =>
    if seen.contains name then distinctNames seen rest
    else name :: distinctNames (name :: seen) rest

def eventNames (p : QueryPlan) : List String :=
  distinctNames [] ((p.metrics.filter fun m => !m.countsEvery).map (·.name))

end QueryPlan

namespace RequestedMetric

def firstRepeated? (seen : List RequestedMetric) : List RequestedMetric → Option RequestedMetric
  | [] => none
  | m :: rest => if seen.contains m then some m else firstRepeated? (m :: seen) rest

/-- The name of a metric's column: with what it counts, where the name is asked for twice. -/
def label (all : List RequestedMetric) (m : RequestedMetric) : String :=
  if 1 < (all.filter fun other => other.name = m.name).length then
    m.name ++ " (" ++ m.math.name ++ ")"
  else m.name

def plan (all : List RequestedMetric) (m : RequestedMetric) : Checked PlannedMetric :=
  let label := m.label all
  if Text.sameIgnoringCase label "date" then .error (.request .metricNamedDate)
  else match Ident.new? label with
    | .error fault => .error (.identifier fault)
    | .ok title => .ok ⟨m.name, m.math, title⟩

end RequestedMetric

/-- Applies a check to each item; the first fault is the answer. -/
def checkAll {α β : Type} (check : α → Checked β) : List α → Checked (List β)
  | [] => .ok []
  | a :: rest =>
    match check a with
    | .error e => .error e
    | .ok b => (checkAll check rest).map (b :: ·)

def RequestedMetric.planAll (metrics : List RequestedMetric) : Checked (List PlannedMetric) :=
  if metrics.isEmpty then .error (.request .noMetric)
  else match RequestedMetric.firstRepeated? [] metrics with
    | some m => .error (.request (.metricTwice m.name m.math))
    | none => checkAll (RequestedMetric.plan metrics) metrics

def RequestedFilter.plan (f : RequestedFilter) : Checked PlannedFilter :=
  match Ident.checkComponent f.name with
  | .error fault => .error (.identifier fault)
  | .ok () => (FilterOperator.parse f.operator f.type).map fun op => ⟨f.name, f.type, op, f.value⟩

def RequestedSpan.window (t : RequestedSpan) : Checked Window :=
  match TimeUnit.parse t.unit with
  | .error e => .error e
  | .ok unit =>
    match Zone.parse t.zone with
    | .error e => .error e
    | .ok zone => Window.new? t.start t.finish unit zone

/-- Checks a request. -/
def InsightQuery.plan (q : InsightQuery) (maxBuckets : Nat) : Checked QueryPlan :=
  match q.time.window with
  | .error e => .error e
  | .ok window =>
    match window.labels maxBuckets with
    | .error e => .error e
    | .ok buckets =>
      match RequestedMetric.planAll q.metrics with
      | .error e => .error e
      | .ok metrics =>
        match checkAll RequestedFilter.plan q.filters with
        | .error e => .error e
        | .ok filters =>
          match checkAll GroupPlan.ofSpec q.groups with
          | .error e => .error e
          | .ok groups =>
            match checkDistinct groups with
            | .error e => .error e
            | .ok () =>
              .ok ⟨q.insightId, q.insightType, window, buckets, metrics, filters, groups⟩

end Analytics
