import Analytics.Paging.Listing
import Analytics.Source.Internal

/-!
The listing of a website's events, one row per event, by the number of the event.
-/

namespace Analytics.EventListRequest

def timeConditions (r : EventListRequest) : Checked (List Condition) :=
  match r.time with
  | none => .ok []
  | some range =>
    (Window.new? range.start range.finish .day Zone.utc).map fun window =>
      [.plain (TimeRange.predicate Internal.createdAt .datetime window)]

def filterCondition (f : RequestedFilter) : Checked Condition :=
  match f.plan with
  | .error e => .error e
  | .ok planned => Internal.filter planned

def columns : List Column :=
  [Internal.id, Internal.websiteId, Internal.sessionId, Internal.eventName, Internal.createdAt]
    ++ Internal.dimensions.map Internal.event.column

/-- The listing that a request asks for, in pages of `limit` rows. -/
def listing (r : EventListRequest) (limit : Int) : Checked Listing :=
  match r.timeConditions with
  | .error e => .error e
  | .ok time =>
    (checkAll filterCondition r.filters).map fun filters =>
      { insightId := r.insightId
        insightType := .internal
        relation := Internal.event
        columns := columns
        key := Internal.id
        keyField := "id"
        conditions := .plain (Internal.scope r.insightId) :: (time ++ filters)
        order := r.order
        limit := limit }

end Analytics.EventListRequest
