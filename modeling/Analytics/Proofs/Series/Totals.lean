import Analytics.Proofs.Number.Whole
import Analytics.Proofs.Series.Values
import Analytics.Proofs.Source.EventLog
import Mathlib.Algebra.BigOperators.Group.Finset.Basic

/-!
Totals. Without groups a row that a request selects counts at one date, that of its label, so the
points of the series of all events add up to the number of rows; and so many does a listing show.
-/

namespace Analytics

theorem sum_placed {α β : Type} [DecidableEq β] {places : List β} (once : places.Nodup)
    {place : α → β} {as : List α} (inside : ∀ a ∈ as, place a ∈ places) :
    (places.map fun b => (as.filter fun a => place a = b).length).sum = as.length := by
  have counted (b : β) : (as.filter fun a => place a = b).length
      = Multiset.count b (as.map place : List β) := by
    rw [Multiset.coe_count, List.count, List.countP_map, List.countP_eq_length_filter]
    rfl
  have among : ∀ b ∈ ((as.map place : List β) : Multiset β), b ∈ places.toFinset := by
    intro b member
    obtain ⟨a, item, rfl⟩ := List.mem_map.mp (Multiset.mem_coe.mp member)
    exact List.mem_toFinset.mpr (inside a item)
  calc (places.map fun b => (as.filter fun a => place a = b).length).sum
      = (places.map fun b => Multiset.count b (as.map place : List β)).sum := by
        rw [List.map_congr_left fun b _ => counted b]
    _ = places.toFinset.sum fun b => Multiset.count b (as.map place : List β) :=
        (List.sum_toFinset _ once).symm
    _ = Multiset.card ((as.map place : List β) : Multiset β) := Multiset.sum_count_eq_card among
    _ = as.length := by rw [Multiset.coe_card, List.length_map]

namespace Source

variable {s : Source} {p : QueryPlan} {t : Table} {m : PlannedMetric} {dates : List String}
  {keys : List (List GroupValue)}

def labelOf (s : Source) (p : QueryPlan) (v : RowView Column) : String :=
  ((s.dates.label p.window).eval v).text?.getD ""

theorem count_ungrouped (every : m.countsEvery = true) (events : m.math = .events)
    (ungrouped : p.groups = [])
    (labelled : ∀ v ∈ s.selected p t, ∃ label, (s.dates.label p.window).eval v = .text label)
    (key : List GroupValue) (date : String) : s.count p t m key date
      = ((s.selected p t).filter fun v => ([], s.labelOf p v) = (key, date)).length := by
  unfold count countOf
  rw [events]
  refine congrArg List.length (List.filter_congr fun v member => ?_)
  obtain ⟨label, shown⟩ := labelled v member
  have own : s.labelOf p v = label := by
    rw [labelOf, shown]
    rfl
  rw [counts, every, Bool.true_or, Bool.true_and, isAt, ungrouped, shown, own]
  cases key with
  | nil => simp [hasValues]
  | cons value rest => simp [hasValues]

theorem sum_counts (every : m.countsEvery = true) (events : m.math = .events)
    (ungrouped : p.groups = [])
    (labelled : ∀ v ∈ s.selected p t, ∃ label, (s.dates.label p.window).eval v = .text label)
    (member : m ∈ p.metrics) (covers : s.Covers p t dates keys) :
    ((keys.product dates).map fun place => s.count p t m place.1 place.2).sum
      = (s.selected p t).length := by
  have counted := count_ungrouped every events ungrouped labelled
  have inside : ∀ v ∈ s.selected p t, ([], s.labelOf p v) ∈ keys.product dates := by
    intro v selected
    have some : s.count p t m [] (s.labelOf p v) ≠ 0 := by
      rw [counted]
      refine (List.length_pos_of_mem (List.mem_filter.mpr ⟨selected, ?_⟩)).ne'
      exact decide_eq_true rfl
    exact List.mem_product.mpr (covers.counted m member [] (s.labelOf p v) some)
  rw [← sum_placed (covers.keysOnce.product covers.datesOnce) inside]
  exact congrArg List.sum (List.map_congr_left fun place _ => counted place.1 place.2)

theorem countedSeries_values (single : p.metrics = [m]) :
    ((s.countedSeries p t dates keys).flatMap Series.data).map DataPoint.value
      = ((keys.product dates).map fun place => s.count p t m place.1 place.2).map
          fun n => .ofInt n := by
  unfold countedSeries
  rw [single, List.flatMap_singleton, List.flatMap_map, List.map_flatMap]
  unfold List.product
  rw [List.map_flatMap, List.map_flatMap]
  refine List.flatMap_congr fun key _ => ?_
  simp only [List.map_map]
  rfl

end Source

/-- Every row of a log that a request selects has a label. -/
theorem Table.IsEventLog.labelled {q : InsightQuery} {p : QueryPlan} {most : Nat} {t : Table}
    (log : t.IsEventLog) (passes : q.Passes most p) :
    ∀ v ∈ (Internal.source p.insightId).selected p t,
      ∃ label, ((Internal.source p.insightId).dates.label p.window).eval v = .text label := by
  intro v selected
  obtain ⟨member, selects⟩ := List.mem_filter.mp selected
  obtain ⟨row, among, rfl⟩ := List.mem_map.mp member
  obtain ⟨second, tells, dated, early, late⟩ := log.dated row among
  obtain ⟨-, -, -, zone⟩ := RequestedSpan.window_ok passes.window
  unfold Source.selects at selects
  rw [Bool.and_eq_true, Bool.and_eq_true] at selects
  exact DateSource.label_universal (Internal.source_universal p.insightId)
    (Zone.parse_staysWithinDay zone) (Internal.records p.insightId tells dated) selects.1.2 early late

namespace AskSame

variable {q : InsightQuery} {r : EventListRequest} {p : QueryPlan} {most : Nat}

theorem metric (same : AskSame q r) (passes : q.Passes most p) :
    ∃ m, p.metrics = [m] ∧ m.countsEvery = true ∧ m.math = .events := by
  have matched := RequestedMetric.planAll_ok passes.metrics
  rw [same.every] at matched
  generalize p.metrics = metrics at matched ⊢
  cases matched with
  | cons first rest =>
    cases rest
    obtain ⟨name, math, -⟩ := RequestedMetric.plan_ok first
    exact ⟨_, rfl, decide_eq_true name, math⟩

theorem groups (same : AskSame q r) (passes : q.Passes most p) : p.groups = [] := by
  have planned := passes.groups
  rw [same.ungrouped] at planned
  exact (Except.ok.inj planned).symm

end AskSame

namespace Engine

variable {w : World} {e e' : Engine} {q : InsightQuery}

theorem prepare_own {prepared : Prepared} (done : e.prepare w q = (.ok prepared, e'))
    (internal : q.insightType = .internal) : prepared.resolved = .internal := by
  obtain ⟨planned, resolved, -⟩ := prepare_ok done
  have type := (InsightQuery.passes planned).type.trans internal
  unfold Registry.resolve at resolved
  rw [if_pos type] at resolved
  exact (Except.ok.inj resolved).symm

theorem listEvents_ok {r : EventListRequest} {page : Page} (listed : e.listEvents w r = .ok page) :
    ∃ limit l, e.pageLimit? r.limit = some limit ∧ r.listing limit = .ok l ∧
      l.IsRead w.internal page := by
  unfold listEvents at listed
  split at listed
  · cases listed
  rename_i limit limited
  split at listed
  · cases listed
  rename_i l made
  exact ⟨limit, l, limited, made, Listing.page_read listed⟩

/-- The series of all events over a log counts what a listing shows: its points are counts that add up
to the number of selected rows. -/
theorem query_counts {r : EventListRequest} {series : List Series} {t : Table} (same : AskSame q r)
    (found : w.internal.table? Internal.event.table.text = some t) (log : t.IsEventLog)
    (counted : e.query w q = (.ok series, e')) :
    ∃ (p : QueryPlan) (counts : List Nat), q.Passes e.maxBuckets p ∧
      (series.flatMap Series.data).map DataPoint.value = counts.map (fun k : Nat => .ofInt k) ∧
      counts.sum = ((Internal.source p.insightId).selected p t).length := by
  obtain ⟨prepared, rows, done, answered, shown⟩ := query_ok counted
  obtain ⟨planned, -, built⟩ := prepare_ok done
  have passes := InsightQuery.passes planned
  unfold Prepared.database at answered
  rw [prepare_own done same.internal] at built answered
  obtain ⟨m, single, every, events⟩ := same.metric passes
  have ungrouped := same.groups passes
  have titles : (prepared.plan.metrics.map (·.title.text)).Nodup := by
    rw [single]
    exact List.nodup_singleton _
  have clear : (Internal.source prepared.plan.insightId).isClearIn prepared.plan t = true := by
    unfold Source.isClearIn
    rw [ungrouped]
    exact List.all_eq_true.mpr fun row _ => rfl
  obtain ⟨dates, keys, covers, made⟩ := Source.series_counts passes titles
    (Internal.source_rowwise prepared.plan.insightId) built found clear answered
  have own := (QueryPlan.seriesOfRows_ok made).trans shown.symm
  refine ⟨prepared.plan, _, passes, ?_, Source.sum_counts every events ungrouped
    (log.labelled passes) (single ▸ List.mem_singleton.mpr rfl) covers⟩
  rw [← own]
  exact Source.countedSeries_values single

/-- Over a log of events, a client that follows the cursors of a listing sees as many events as the
series of all events of the same span has at its points. The points are counts; below 2⁵³ they add up
to the number of events as floating numbers too. -/
theorem totals_agree {r : EventListRequest} {series : List Series} {first : Page} {t : Table}
    (same : AskSame q r) (found : w.internal.table? "website_event" = some t) (log : t.IsEventLog)
    (start : q.time.start.utc.date.HasPlainYear) (finish : q.time.finish.utc.date.HasPlainYear)
    (counted : e.query w q = (.ok series, e'))
    (listed : e.listEvents w { r with cursor := none } = .ok first) {n : Nat}
    (enough : t.rows.length < n) : ∃ (pages : List Page) (counts : List Nat),
      e.followEvents r none (List.replicate n w) = .ok pages ∧ Ended pages ∧
      (series.flatMap Series.data).map DataPoint.value = counts.map (fun k : Nat => .ofInt k) ∧
      counts.sum = (pages.flatMap Page.items).length ∧
      (counts.sum < 2 ^ 53 → ((series.flatMap Series.data).map DataPoint.value).foldl
        Binary64.add .zero = .ofInt (pages.flatMap Page.items).length) := by
  obtain ⟨p, counts, passes, values, sum⟩ := query_counts same found log counted
  obtain ⟨limit, l, limited, made, read⟩ := listEvents_ok listed
  have few : (l.rows w.internal).length < n := by
    rwa [EventListRequest.listing_rows made found, List.length_map]
  obtain ⟨pages, followed, ended, shown⟩ := followEvents_whole (r := r) limited made
    (same.serves made log found read.known) few
  have total : counts.sum = (pages.flatMap Page.items).length := by
    rw [sum, shown]
    exact (same.matching_selected passes made start finish log found).symm
  refine ⟨pages, counts, followed, ended, values, total, fun small => ?_⟩
  rw [values, ← total]
  exact Binary64.sum_ofInt small

def sampleVisit (visit : Int × Int) : TableRow :=
  [("id", .int visit.1), ("created_at", .text (WallTime.mk visit.2 0).dateTimeText),
    ("created_date", .text (Date.ofDay (visit.2 / 86400)).text), ("website_id", .text "site"),
    ("event_name", .text "visit")]

theorem sampleVisit_cells (visit : Int × Int) :
    TableRow.cell (sampleVisit visit) "id" = .int visit.1 ∧
    TableRow.cell (sampleVisit visit) "created_at" = .text (WallTime.mk visit.2 0).dateTimeText ∧
    TableRow.cell (sampleVisit visit) "created_date"
      = .text (Date.ofDay (visit.2 / 86400)).text := by
  have idTime : foldName "id" ≠ foldName "created_at" := by decide
  have idDate : foldName "id" ≠ foldName "created_date" := by decide
  have timeDate : foldName "created_at" ≠ foldName "created_date" := by decide
  simp [TableRow.cell, sampleVisit, idTime, idDate, timeDate]

theorem sampleVisits_log {visits : List (Int × Int)}
    (known : ∀ visit ∈ visits, fitsWord visit.1 = true ∧
      0 ≤ (Date.ofDay (visit.2 / 86400)).year ∧ (Date.ofDay (visit.2 / 86400)).year ≤ 9998)
    (apart : (visits.map (·.1)).Nodup) :
    Table.IsEventLog ⟨sampleColumns, visits.map sampleVisit⟩ where
  numbered := by
    intro row member
    obtain ⟨visit, among, rfl⟩ := List.mem_map.mp member
    exact ⟨visit.1, (sampleVisit_cells visit).1, (known visit among).1, rfl⟩
  apart := by
    have cells : (visits.map sampleVisit).map (fun row => TableRow.cell row "id")
        = (visits.map (·.1)).map Cell.int := by
      rw [List.map_map, List.map_map]
      exact List.map_congr_left fun visit _ => (sampleVisit_cells visit).1
    rw [cells]
    exact apart.map fun _ _ => Cell.int.inj
  dated := by
    intro row member
    obtain ⟨visit, among, rfl⟩ := List.mem_map.mp member
    obtain ⟨-, time, date⟩ := sampleVisit_cells visit
    obtain ⟨-, early, late⟩ := known visit among
    have plain : (Date.ofDay (visit.2 / 86400)).HasPlainYear := ⟨early, by omega⟩
    refine ⟨visit.2, ?_, date, early, late⟩
    rw [time]
    exact TimestampEncoding.tells_dateTime plain (WallTime.isPlain_whole visit.2)

def sampleLog : Table :=
  ⟨sampleColumns, [(7, 3600), (4, 90000), (5, 90001), (9, 172800)].map sampleVisit⟩

def sampleDaysRequest : InsightQuery where
  insightId := "site"
  insightType := .internal
  time := ⟨⟨0, 0⟩, ⟨172800, 0⟩, "day", ""⟩
  metrics := [⟨allEvent, .events⟩]
  filters := []
  groups := []

def sampleDaysListing : EventListRequest :=
  ⟨"site", [], some 2, none, .descending, some ⟨⟨0, 0⟩, ⟨172800, 0⟩⟩⟩

theorem totals_agree_sample :
    ∃ (series : List Series) (e' : Engine) (pages : List Page) (counts : List Nat),
      sampleEngine.query (sampleWorld sampleLog) sampleDaysRequest = (.ok series, e') ∧
      sampleEngine.followEvents sampleDaysListing none (List.replicate 5 (sampleWorld sampleLog))
        = .ok pages ∧ Ended pages ∧
      (series.flatMap Series.data).map DataPoint.value = counts.map (fun k : Nat => .ofInt k) ∧
      counts.sum = (pages.flatMap Page.items).length ∧ (pages.flatMap Page.items).length = 3 := by
  have same : AskSame sampleDaysRequest sampleDaysListing := ⟨rfl, rfl, rfl, rfl, rfl, rfl⟩
  have found : (sampleWorld sampleLog).internal.table? "website_event" = some sampleLog := by
    simp [sampleWorld, Database.table?]
  have log : sampleLog.IsEventLog := sampleVisits_log (by decide +kernel) (by decide +kernel)
  obtain ⟨prepared, e', done, runs⟩ := exists_prepared (sampleWorld sampleLog) sampleEngine
    sampleDaysRequest (fun prepared =>
      (prepared.database (sampleWorld sampleLog)).runs prepared.statement) (by decide +kernel)
  obtain ⟨rows, answered⟩ := Database.series_some runs
  have counted := query_answered done answered
  obtain ⟨l, made, known, three⟩ : ∃ l, sampleDaysListing.listing 2 = .ok l ∧
      (sampleWorld sampleLog).internal.knows l.relations l.readColumns = true ∧
      (l.matching (sampleWorld sampleLog).internal).length = 3 :=
    ⟨_, rfl, by decide +kernel, by decide +kernel⟩
  have limited : sampleEngine.pageLimit? sampleDaysListing.limit = some 2 := by decide
  have serves := same.serves made log found known
  have few : (l.rows (sampleWorld sampleLog).internal).length < 5 := by
    rw [EventListRequest.listing_rows made found]
    decide
  obtain ⟨pages, followed, -, shown⟩ := followEvents_whole limited made serves few
  obtain ⟨keyed, size⟩ := EventListRequest.listing_keyed made
  have positive : 1 ≤ l.limit := size ▸ by decide
  have fits : ∀ last ∈ (none : Option Int), fitsWord last = true := by simp
  obtain ⟨first, read, -⟩ := Listing.page_ok keyed positive serves fits
  obtain ⟨pages', counts, followed', ended, values, total, -⟩ := totals_agree same found log
    (by decide +kernel) (by decide +kernel) counted
    ((listEvents_eq limited made none _).trans read) (show sampleLog.rows.length < 5 by decide)
  obtain rfl : pages = pages' := Except.ok.inj (followed.symm.trans followed')
  exact ⟨_, e', pages, counts, counted, followed, ended, values, total, shown.trans three⟩

end Engine

end Analytics
