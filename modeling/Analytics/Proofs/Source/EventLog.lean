import Analytics.Proofs.Paging.Whole
import Analytics.Proofs.Query.Universal
import Analytics.Proofs.Series.Count
import Analytics.Proofs.Source.Isolation

/-!
The log of events. A listing of a span of time and a request for series over it select the same rows:
the listing by times, the series by times or by dates.
-/

namespace Analytics

theorem TimestampEncoding.tells_dateTime {t : WallTime} (year : t.date.HasPlainYear)
    (plain : t.IsPlain) : datetime.Tells (.text t.dateTimeText) t.seconds :=
  ⟨t.seconds * 1000, .of_plain year plain, by omega⟩

/-- A log of events: each has a number of its own, which its column keeps, and a text that the store
reads as a time of one of the years 0 to 9998, with the date of that time in universal time. -/
structure Table.IsEventLog (t : Table) : Prop where
  numbered : ∀ row ∈ t.rows, ∃ i, TableRow.cell row "id" = .int i ∧ fitsWord i = true ∧
    (Cell.int i).kept ((t.affinity? "id").getD .none) = .int i
  apart : (t.rows.map fun row => TableRow.cell row "id").Nodup
  dated : ∀ row ∈ t.rows, ∃ second,
    TimestampEncoding.datetime.Tells (TableRow.cell row "created_at") second ∧
    TableRow.cell row "created_date" = .text (Date.ofDay (second / 86400)).text ∧
    0 ≤ (Date.ofDay (second / 86400)).year ∧ (Date.ofDay (second / 86400)).year ≤ 9998

/-- Requests for the same events: as series without groups, all events counted, and as a listing. -/
structure AskSame (q : InsightQuery) (r : EventListRequest) : Prop where
  internal : q.insightType = .internal
  every : q.metrics = [⟨allEvent, .events⟩]
  ungrouped : q.groups = []
  insight : r.insightId = q.insightId
  filters : r.filters = q.filters
  time : r.time = some ⟨q.time.start, q.time.finish⟩

namespace Internal

variable {website : String} {t : Table} {w : Window} {row : TableRow} {second : Int}

theorem source_universal (website : String) : (source website).dates.IsUniversal := ⟨rfl, rfl⟩

theorem view_event (c : Column) (own : event.name = c.relation) (row : TableRow) :
    (t.view event.name row).cell c = TableRow.cell row c.name.text ∧
      (t.view event.name row).affinity c = (t.affinity? c.name.text).getD .none :=
  ⟨if_pos own, if_pos own⟩

theorem records (website : String)
    (tells : TimestampEncoding.datetime.Tells (TableRow.cell row "created_at") second)
    (dated : TableRow.cell row "created_date" = .text (Date.ofDay (second / 86400)).text) :
    (source website).dates.Records (t.view event.name row) second where
  tells := by
    rw [show (source website).dates.column = createdAt from rfl, (view_event createdAt rfl row).1]
    exact tells
  dated := by
    rintro _ ⟨⟩
    rw [(view_event createdDate rfl row).1]
    exact dated

end Internal

namespace EventListRequest

variable {r : EventListRequest} {limit : Int} {l : Listing}

theorem listing_ok {range : TimeRange} (made : r.listing limit = .ok l) (time : r.time = some range) :
    ∃ window filters, Window.new? range.start range.finish .day Zone.utc = .ok window ∧
      checkAll filterCondition r.filters = .ok filters ∧ l.key = Internal.id ∧
      l.conditions = .plain (Internal.scope r.insightId) ::
        .plain (TimeRange.predicate Internal.createdAt .datetime window) :: filters := by
  unfold listing timeConditions at made
  rw [time] at made
  dsimp only at made
  split at made
  · cases made
  rename_i conditions timed
  obtain ⟨window, spanned, rfl⟩ := map_ok timed
  obtain ⟨filters, filtered, rfl⟩ := map_ok made
  exact ⟨window, filters, spanned, filtered, rfl, rfl⟩

theorem listing_rows {db : Database} {t : Table} (made : r.listing limit = .ok l)
    (found : db.table? Internal.event.table.text = some t) :
    l.rows db = t.rows.map fun row => [⟨Internal.event.name, t, some row⟩] := by
  rw [Listing.rows, (Internal.lists made).relation, Relation.extend, found]

theorem filters_planned {fs : List RequestedFilter} {planned : List PlannedFilter}
    {cs : List Condition} (plans : checkAll RequestedFilter.plan fs = .ok planned)
    (made : checkAll filterCondition fs = .ok cs) : checkAll Internal.filter planned = .ok cs := by
  have matched := checkAll_ok plans
  clear plans
  induction matched generalizing cs with
  | nil => exact made
  | @cons f p fs planned first _ ih =>
    have own : filterCondition f = Internal.filter p := by
      unfold filterCondition
      rw [first]
    unfold checkAll at made ⊢
    rw [own] at made
    split at made
    · cases made
    · rename_i c compiled
      obtain ⟨rest, later, rfl⟩ := map_ok made
      rw [ih later]
      rfl

end EventListRequest

namespace AskSame

variable {q : InsightQuery} {r : EventListRequest} {p : QueryPlan} {limit : Int} {l : Listing}
  {t : Table} {db : Database}

theorem selects (same : AskSame q r) {most : Nat} (passes : q.Passes most p)
    (made : r.listing limit = .ok l) (start : q.time.start.utc.date.HasPlainYear)
    (finish : q.time.finish.utc.date.HasPlainYear) {v : RowView Column} {second : Int}
    (records : (Internal.source p.insightId).dates.Records v second) :
    Condition.allHold l.conditions v = (Internal.source p.insightId).selects p v := by
  obtain ⟨window, filters, spanned, filtered, -, conditions⟩ :=
    EventListRequest.listing_ok made same.time
  obtain ⟨startSame, finishSame, -, zone⟩ := RequestedSpan.window_ok passes.window
  have bounds : window.start = p.window.start ∧ window.finish = p.window.finish := by
    unfold Window.new? at spanned
    split at spanned
    · cases spanned
      exact ⟨startSame.symm, finishSame.symm⟩
    · cases spanned
  have time : TimeRange.predicate Internal.createdAt .datetime window
      = TimeRange.predicate Internal.createdAt .datetime p.window := by
    simp only [TimeRange.predicate, bounds.1, bounds.2]
  have range := DateSource.range_universal (Internal.source_universal p.insightId)
    (Zone.parse_named zone) (startSame ▸ start) (finishSame ▸ finish) records
  have filter : Condition.allHold filters v
      = p.filters.all ((Internal.source p.insightId).passes v) := by
    rw [same.filters] at filtered
    exact Source.filters_pass (EventListRequest.filters_planned passes.filters filtered) v
  rw [conditions, time, same.insight, ← passes.id, Source.selects, ← filter, range]
  simp only [Condition.allHold, List.all_cons, Condition.holdsOn, Internal.source, List.all_nil,
    Bool.and_true, Bool.and_assoc]

theorem matching_selected (same : AskSame q r) {most : Nat} (passes : q.Passes most p)
    (made : r.listing limit = .ok l) (start : q.time.start.utc.date.HasPlainYear)
    (finish : q.time.finish.utc.date.HasPlainYear) (log : t.IsEventLog)
    (found : db.table? Internal.event.table.text = some t) :
    (l.matching db).length = ((Internal.source p.insightId).selected p t).length := by
  have lists := Internal.lists made
  have views : (l.matching db).map RowScope.view
      = (t.rows.map (t.view Internal.event.name)).filter (Condition.allHold l.conditions) := by
    rw [Listing.matching, Listing.rows, lists.relation]
    exact Condition.filter_extend found lists.plain
  rw [← List.length_map RowScope.view, views]
  refine congrArg List.length (List.filter_congr fun v member => ?_)
  obtain ⟨row, among, rfl⟩ := List.mem_map.mp member
  obtain ⟨second, tells, dated, -⟩ := log.dated row among
  exact same.selects passes made start finish (Internal.records p.insightId tells dated)

theorem serves (same : AskSame q r) (made : r.listing limit = .ok l) (log : t.IsEventLog)
    (found : db.table? Internal.event.table.text = some t)
    (known : db.knows l.relations l.readColumns = true) : l.Serves db := by
  obtain ⟨-, -, -, -, key, -⟩ := EventListRequest.listing_ok made same.time
  have cell (row : TableRow) : RowScope.view [⟨Internal.event.name, t, some row⟩]
      = t.view Internal.event.name row := RowScope.view_single t _ row
  have rows {s : RowScope} (member : s ∈ l.rows db) : ∃ row ∈ t.rows,
      s.view.cell l.key = TableRow.cell row "id" ∧
      s.view.affinity l.key = (t.affinity? "id").getD .none := by
    rw [EventListRequest.listing_rows made found] at member
    obtain ⟨row, among, rfl⟩ := List.mem_map.mp member
    rw [key, cell]
    exact ⟨row, among, Internal.view_event Internal.id rfl row⟩
  have whole : ∀ s ∈ l.rows db, s.view.cell l.key = .int (l.keyAt s) ∧
      fitsWord (l.keyAt s) = true ∧
      (s.view.cell l.key).kept (s.view.affinity l.key) = s.view.cell l.key := by
    intro s member
    obtain ⟨row, among, own, affinity⟩ := rows member
    obtain ⟨i, number, fits, kept⟩ := log.numbered row among
    rw [Listing.keyAt, affinity, own, number]
    exact ⟨rfl, fits, kept⟩
  refine ⟨known, fun s member => ⟨(whole s member).1, (whole s member).2.1⟩,
    fun s member => (whole s member).2.2, ?_⟩
  -- Rows with distinct cells have distinct keys.
  have cells : (l.rows db).map (fun s => Cell.int (l.keyAt s))
      = t.rows.map fun row => TableRow.cell row "id" := by
    have shown : (l.rows db).map (fun s => Cell.int (l.keyAt s))
        = (l.rows db).map fun s => s.view.cell l.key :=
      List.map_congr_left fun s member => (whole s member).1.symm
    rw [shown, EventListRequest.listing_rows made found, List.map_map, key]
    exact List.map_congr_left fun row _ =>
      (congrArg (RowView.cell · Internal.id) (cell row)).trans
        (Internal.view_event Internal.id rfl row).1
  have once : ((l.rows db).map l.keyAt |>.map Cell.int).Nodup := by
    rw [List.map_map]
    exact (show ((l.rows db).map fun s => Cell.int (l.keyAt s)).Nodup from cells ▸ log.apart)
  exact once.of_map Cell.int

end AskSame

end Analytics
