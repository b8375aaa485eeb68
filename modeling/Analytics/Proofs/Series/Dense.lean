import Analytics.Proofs.Query.Ranges
import Analytics.Proofs.Series.Answers
import Analytics.Proofs.Source.Copied

/-!
Series without gaps. Over a regular window the labels that the store gives to rows are among those of
the request's buckets, so every series has one point for each bucket and no other.
-/

namespace Analytics

def RowScope.IsOf (s : RowScope) (name : Ident) (t : Table) : Prop :=
  ∃ row ∈ t.rows, s.find? name = some ⟨name, t, some row⟩

namespace RowScope

variable {s : RowScope} {name : Ident} {t : Table}

theorem IsOf.beside (own : s.IsOf name t) {b : BoundRow} (apart : name ≠ b.name) :
    IsOf (b :: s) name t := by
  obtain ⟨row, member, found⟩ := own
  refine ⟨row, member, ?_⟩
  rw [find?, List.find?_cons_of_neg (by simpa using apart.symm)]
  exact found

theorem IsOf.apply (own : s.IsOf name t) {db : Database} {j : Join}
    (apart : name ≠ j.relation.name) : ∀ u ∈ j.apply db s, u.IsOf name t := by
  intro u member
  cases found : db.table? j.relation.table.text with
  | none =>
    have alone : j.apply db s = [s] := by
      unfold Join.apply Relation.extend Relation.extendNull
      rw [found]
      rfl
    rw [alone] at member
    rw [List.mem_singleton.mp member]
    exact own
  | some table =>
    obtain ⟨row, rfl⟩ := Join.apply_beside found member
    exact own.beside apart

end RowScope

namespace Branch

variable {db : Database} {b : Branch} {t : Table}

theorem joined_isOf {name : Ident} {joins : List Join}
    (apart : ∀ j ∈ joins, name ≠ j.relation.name) {scopes : List RowScope}
    (own : ∀ s ∈ scopes, s.IsOf name t) :
    ∀ s ∈ joins.foldl (fun scopes j => scopes.flatMap (j.apply db)) scopes, s.IsOf name t := by
  induction joins generalizing scopes with
  | nil => exact own
  | cons j rest ih =>
    obtain ⟨first, others⟩ := List.forall_mem_cons.mp apart
    refine ih others fun u member => ?_
    obtain ⟨s, among, joined⟩ := List.mem_flatMap.mp member
    exact (own s among).apply first u joined

theorem scopes_isOf (apart : ∀ j ∈ b.joins, b.relation.name ≠ j.relation.name)
    (found : db.table? b.relation.table.text = some t) : ∀ s ∈ b.scopes db,
      s.IsOf b.relation.name t ∧ ∀ c ∈ b.conditions, c.holds db s = true := by
  intro s member
  obtain ⟨joined, holds⟩ := List.mem_filter.mp member
  refine ⟨joined_isOf apart ?_ s joined, List.all_eq_true.mp holds⟩
  intro u base
  rw [Relation.extend_found found] at base
  obtain ⟨row, among, rfl⟩ := List.mem_map.mp base
  exact ⟨row, among, List.find?_cons_of_pos (by simp)⟩

end Branch

theorem RequestedSpan.zone_near {t : RequestedSpan} {w : Window} (spanned : t.window = .ok w) :
    w.zone.StaysWithinDay :=
  Zone.parse_staysWithinDay (RequestedSpan.window_ok spanned).2.2.2

def Table.HoldsWhole (t : Table) (name : String) : Prop :=
  t.affinity? name ≠ some .text ∧
    ∀ row ∈ t.rows, TableRow.cell row name = .null ∨ ∃ i, TableRow.cell row name = .int i

namespace Source

variable {s : Source} {p : QueryPlan} {statement : SeriesStatement} {db : Database} {t : Table}
  {rows : List ResultRow}

/-- A source whose times are a column of its events, told apart from what is joined to them. -/
structure IsAnchored (s : Source) : Prop where
  column : s.dates.column.relation = s.relation.name
  apart : ∀ j ∈ s.joins, s.relation.name ≠ j.relation.name

/-- A table with a time column: of whole numbers, or of texts that show the times that they are. -/
structure IsTimedIn (s : Source) (t : Table) : Prop where
  time : s.dates.encoding ≠ .date
  whole : s.dates.encoding ≠ .datetime → t.HoldsWhole s.dates.column.name.text
  shows : s.dates.encoding = .datetime →
    ∀ row ∈ t.rows, Clock.ShowsTime (TableRow.cell row s.dates.column.name.text)

theorem IsTimedIn.view (anchored : s.IsAnchored) (timed : s.IsTimedIn t) {scope : RowScope}
    (own : scope.IsOf s.relation.name t) : s.dates.IsTimed scope.view := by
  obtain ⟨row, member, found⟩ := own
  have cell : scope.view.cell s.dates.column = TableRow.cell row s.dates.column.name.text := by
    simp only [RowScope.view, anchored.column, found, Option.bind_some]
  have affinity : scope.view.affinity s.dates.column
      = (t.affinity? s.dates.column.name.text).getD .none := by
    simp only [RowScope.view, anchored.column, found]
  refine ⟨timed.time, fun number => ?_, fun text => cell ▸ timed.shows text row member⟩
  obtain ⟨notText, whole⟩ := timed.whole number
  refine ⟨?_, cell ▸ whole row member⟩
  rw [affinity]
  cases known : t.affinity? s.dates.column.name.text with
  | none => decide
  | some a => exact fun same => notText (by rw [known]; exact congrArg some same)

theorem answered_table {b : Branch} (answered : db.series? statement = some rows)
    (among : b ∈ statement.branches) : ∃ t, db.table? b.relation.table.text = some t := by
  unfold Database.series? at answered
  split at answered
  · rename_i knows
    rw [Bool.and_eq_true] at knows
    have known := List.all_eq_true.mp knows.2 b among
    exact Option.isSome_iff_exists.mp
      ((Database.knows_iff.mp known).1 b.relation (Branch.mem_relations.mpr (.inl rfl)))
  · cases answered

theorem dated_listed {q : InsightQuery} {limit : Nat} (passes : q.Passes limit p)
    (anchored : s.IsAnchored) (built : s.build p = .ok statement)
    (timed : ∀ t, db.table? s.relation.table.text = some t → s.IsTimedIn t)
    (regular : p.window.IsRegular) (avoids : s.dates.AvoidsLeap p.window)
    (answered : db.series? statement = some rows) :
    ∀ r ∈ rows.filterMap p.datedRow?, r.date ∈ p.buckets := by
  intro r dated
  obtain ⟨row, member, shown⟩ := List.mem_filterMap.mp dated
  obtain ⟨b, among, first, counted, views, rfl⟩ := answer_rows answered member
  obtain ⟨selection, -, made⟩ := matched_right (Source.built built) among
  obtain ⟨t, found⟩ := answered_table answered among
  obtain ⟨scope, inside, rfl⟩ := List.mem_map.mp counted
  obtain ⟨date, own, rfl⟩ := Option.map_eq_some_iff.mp shown
  have apart : ∀ j ∈ b.joins, b.relation.name ≠ j.relation.name := by
    rw [made.joins, made.relation]
    exact anchored.apart
  obtain ⟨isOf, holds⟩ := Branch.scopes_isOf apart found scope inside
  rw [made.relation] at isOf found
  -- The row satisfies the range, and its label is that of its time under the shift.
  have accepted : ((s.dates.range p.window).eval scope.view).holds = true := by
    obtain ⟨event, filters, -, -, conditions⟩ := conditions_ok made.conditions
    refine holds (.plain (s.dates.range p.window)) ?_
    rw [conditions]
    exact List.mem_append_right _ List.mem_cons_self
  have label : (s.dates.label p.window).eval scope.view = .text date := by
    rw [Branch.resultRow_date scope.view views made (QueryPlan.isTold passes), made.label] at own
    rcases label_cases (s.dates.label p.window) scope.view with none | ⟨text, labelled⟩
    · rw [none] at own
      cases own
    · rw [labelled] at own ⊢
      exact congrArg Cell.text (Option.some.inj own)
  exact DateSource.label_listed regular (RequestedSpan.zone_near passes.window)
    ((timed t found).view anchored isOf) avoids accepted label passes.buckets

end Source

namespace QueryPlan

theorem seriesOfRows_dates {p : QueryPlan} {rows : List ResultRow} {series : List Series}
    (shaped : p.seriesOfRows rows = .ok series) : ∀ s ∈ series, s.data.map (·.date)
      = sortDistinct (fun a b => a < b)
          (p.buckets ++ (rows.filterMap p.datedRow?).map (·.date)) := by
  unfold seriesOfRows at shaped
  dsimp only at shaped
  split at shaped
  · cases shaped
  · cases shaped
    intro s member
    obtain ⟨m, -, own⟩ := List.mem_flatMap.mp member
    obtain ⟨key, -, rfl⟩ := List.mem_map.mp own
    unfold seriesOf
    rw [List.map_map]
    exact List.map_id _

end QueryPlan

namespace Resolved

theorem source_anchored (r : Resolved) (p : QueryPlan) : (r.source p).IsAnchored := by
  cases r with
  | internal => exact ⟨rfl, fun j none => nomatch none⟩
  | wide table store => exact ⟨rfl, fun j none => nomatch none⟩
  | long table store =>
    refine ⟨rfl, fun j member => ?_⟩
    obtain ⟨index, field, rfl⟩ := LongTable.mem_joinsFrom member
    exact table.event_apart index

end Resolved

namespace Engine

/-- Over a regular window, with whole numbers or texts as times, every series of an answer has one
point for each bucket of the window, in order, and no other point. -/
theorem query_dense {w : World} {e e' e'' : Engine} {q : InsightQuery} {prepared : Prepared}
    {series : List Series} (done : e.prepare w q = (.ok prepared, e'))
    (answered : e.query w q = (.ok series, e''))
    (timed : ∀ t, (prepared.database w).table? prepared.source.relation.table.text = some t →
      prepared.source.IsTimedIn t)
    (regular : prepared.plan.window.IsRegular)
    (avoids : prepared.source.dates.AvoidsLeap prepared.plan.window) :
    prepared.plan.buckets.Pairwise (· < ·) ∧
      ∀ s ∈ series, s.data.map (·.date) = prepared.plan.buckets := by
  obtain ⟨planned, -, built⟩ := prepare_ok done
  have passes := InsightQuery.passes planned
  have sorted := (regular.labels_ok (RequestedSpan.zone_near passes.window) passes.buckets).sorted
  refine ⟨sorted, fun s member => ?_⟩
  unfold query at answered
  rw [done] at answered
  have shaped := (Prod.mk.inj answered).1
  rw [run_eq] at shaped
  split at shaped
  · rename_i rows stored
    have listed := Source.dated_listed passes (prepared.resolved.source_anchored prepared.plan) built
      timed regular avoids stored
    rw [QueryPlan.seriesOfRows_dates shaped s member]
    refine sortDistinct_append text_strict (sorted.imp decide_eq_true) fun date dated => ?_
    obtain ⟨r, among, rfl⟩ := List.mem_map.mp dated
    exact listed r among
  · cases shaped

def sampleCrates : WideTable :=
  ⟨"depot", none, ⟨"crates", rfl⟩, ⟨"sealed", rfl⟩, .timestampMs, none, Zone.utc, ⟨"sender", rfl⟩,
    none, []⟩

def sampleCratesTable (sealed : List Int) : Table :=
  ⟨[("sender", .text), ("sealed", .integer)],
    sealed.map fun millis => [("sender", .text "b"), ("sealed", .int millis)]⟩

def sampleCratesWorld (sealed : List Int) : World :=
  ⟨fun _ => true, .empty, fun _ => ⟨[("crates", sampleCratesTable sealed)]⟩⟩

def sampleCratesEngine : Engine :=
  ⟨.sqlite, ⟨true, some "sqlite::memory:", ⟨"", some [.wide sampleCrates]⟩, []⟩, 10, 10, 100⟩

def sampleCratesRequest (finish : Instant) : InsightQuery where
  insightId := "depot"
  insightType := .wideTable
  time := ⟨⟨1483142400, 0⟩, finish, "day", ""⟩
  metrics := [⟨"$all_event", .events⟩]
  filters := []
  groups := []

theorem sampleCrates_regular {finish : Instant} {w : Window}
    (spanned : (sampleCratesRequest finish).time.window = .ok w)
    (opens : (⟨1483142400, 0⟩ : Instant) < finish) (before9999 : finish.utc.date.year < 9999)
    (wholeMillis : finish.nanos % 1000000 = 0) (onClock : finish.OnClock) : w.IsRegular := by
  obtain ⟨start, last, -, parsed⟩ := RequestedSpan.window_ok spanned
  have universal : Zone.parse "" = .ok Zone.utc := by decide +kernel
  have zone : w.zone = Zone.utc := Except.ok.inj (parsed.symm.trans universal)
  have first : w.start = ⟨1483142400, 0⟩ := start
  have final : w.finish = finish := last
  refine ⟨?_, ?_, ?_, ?_, ?_, ?_, ?_⟩
  · rw [first, final]
    exact opens
  · rw [first]
    decide
  · rw [final]
    exact before9999
  · rw [first, final]
    exact ⟨rfl, wholeMillis⟩
  · rw [first, final]
    exact ⟨by decide, onClock⟩
  · rw [zone]
    rfl
  · rw [zone]
    rfl

def readsCrates (p : Prepared) : Bool :=
  match p.resolved with
  | .wide t _ => t = sampleCrates
  | _ => false

theorem readsCrates_timed (sealed : List Int) {prepared : Prepared}
    (reads : readsCrates prepared = true) :
    ∀ t, (prepared.database (sampleCratesWorld sealed)).table?
      prepared.source.relation.table.text = some t → prepared.source.IsTimedIn t := by
  obtain ⟨store, resolved⟩ : ∃ store, prepared.resolved = .wide sampleCrates store := by
    unfold readsCrates at reads
    split at reads
    · rename_i t store resolved
      exact ⟨store, of_decide_eq_true reads ▸ resolved⟩
    · cases reads
  have source : prepared.source = sampleCrates.source := by
    unfold Prepared.source
    rw [resolved]
    rfl
  have database : prepared.database (sampleCratesWorld sealed)
      = ⟨[("crates", sampleCratesTable sealed)]⟩ := by
    unfold Prepared.database
    rw [resolved]
    rfl
  have table : (Database.mk [("crates", sampleCratesTable sealed)]).table? "crates"
      = some (sampleCratesTable sealed) := by simp [Database.table?]
  intro t found
  rw [source, database] at found
  obtain rfl : sampleCratesTable sealed = t := Option.some.inj (table.symm.trans found)
  rw [source]
  have affinity : (sampleCratesTable sealed).affinity? "sealed" = some .integer := by
    have apart : foldName "sender" ≠ foldName "sealed" := by decide
    simp [Table.affinity?, sampleCratesTable, apart]
  refine ⟨by decide, fun _ => ⟨?_, fun row member => ?_⟩, fun texts => absurd texts (by decide)⟩
  · exact fun text => absurd (affinity.symm.trans text) (by decide)
  · obtain ⟨millis, -, rfl⟩ := List.mem_map.mp member
    refine .inr ⟨millis, ?_⟩
    have apart : foldName "sender" ≠ foldName "sealed" := by decide
    change TableRow.cell _ "sealed" = _
    simp [TableRow.cell, apart]

def showsDates (sealed : List Int) (dates : List String) (p : Prepared) : Bool :=
  p.plan.buckets = ["2016-12-31"] && match run (sampleCratesWorld sealed) p with
    | .ok series => series.map (fun s => s.data.map (·.date)) = [dates]
    | .error _ => false

theorem showsDates_answered {sealed : List Int} {dates : List String} {e e' : Engine}
    {q : InsightQuery} {prepared : Prepared} (shows : showsDates sealed dates prepared = true)
    (done : e.prepare (sampleCratesWorld sealed) q = (.ok prepared, e')) :
    prepared.plan.buckets = ["2016-12-31"] ∧
      ∃ s, e.query (sampleCratesWorld sealed) q = (.ok [s], e') ∧ s.data.map (·.date) = dates := by
  unfold showsDates at shows
  rw [Bool.and_eq_true, decide_eq_true_eq] at shows
  obtain ⟨buckets, shown⟩ := shows
  refine ⟨buckets, ?_⟩
  split at shown
  · rename_i series answered
    obtain ⟨s, rfl, own⟩ := List.map_eq_singleton_iff.mp (of_decide_eq_true shown)
    refine ⟨s, ?_, own⟩
    unfold query
    rw [done]
    exact congrArg (·, e') answered
  · cases shown

theorem query_dense_sample : ∃ s e', sampleCratesEngine.query (sampleCratesWorld [1483200000000])
      (sampleCratesRequest ⟨1483228800, 0⟩) = (.ok [s], e') ∧
    s.data.map (·.date) = ["2016-12-31"] := by
  obtain ⟨prepared, e', done, held⟩ := exists_prepared (sampleCratesWorld [1483200000000])
    sampleCratesEngine (sampleCratesRequest ⟨1483228800, 0⟩)
    (fun p => readsCrates p && showsDates [1483200000000] ["2016-12-31"] p) (by decide +kernel)
  obtain ⟨reads, shows⟩ := Bool.and_eq_true_iff.mp held
  obtain ⟨buckets, s, answered, -⟩ := showsDates_answered shows done
  have spanned := (InsightQuery.passes (prepare_ok done).1).window
  have regular := sampleCrates_regular spanned (by decide) (by decide) (by decide) (by decide)
  have avoids : prepared.source.dates.AvoidsLeap prepared.plan.window := fun _ => by
    rw [(RequestedSpan.window_ok spanned).2.1]
    decide
  obtain ⟨-, dates⟩ := query_dense done answered (readsCrates_timed _ reads) regular avoids
  rw [buckets] at dates
  exact ⟨s, e', answered, dates s List.mem_cons_self⟩

/-- Up to an end inside the leap second of that day, a crate of the next day adds a point for it. -/
theorem query_spills_over : ¬ ∀ (w : World) (e e' e'' : Engine) (q : InsightQuery)
    (prepared : Prepared) (series : List Series), e.prepare w q = (.ok prepared, e') →
    e.query w q = (.ok series, e'') →
    (∀ t, (prepared.database w).table? prepared.source.relation.table.text = some t →
      prepared.source.IsTimedIn t) →
    prepared.plan.window.IsRegular →
    ∀ s ∈ series, s.data.map (·.date) = prepared.plan.buckets := by
  intro dense
  obtain ⟨prepared, e', done, held⟩ := exists_prepared (sampleCratesWorld [1483228800200])
    sampleCratesEngine (sampleCratesRequest ⟨1483228799, 1500000000⟩)
    (fun p => readsCrates p && showsDates [1483228800200] ["2016-12-31", "2017-01-01"] p)
    (by decide +kernel)
  obtain ⟨reads, shows⟩ := Bool.and_eq_true_iff.mp held
  obtain ⟨buckets, s, answered, shown⟩ := showsDates_answered shows done
  have regular := sampleCrates_regular (InsightQuery.passes (prepare_ok done).1).window
    (by decide) (by decide) (by decide) (by decide)
  have dates := dense _ _ _ _ _ prepared _ done answered (readsCrates_timed _ reads) regular s
    List.mem_cons_self
  rw [shown, buckets] at dates
  exact absurd dates (by decide)

end Engine

end Analytics
