import Analytics.Proofs.Series.Tally

/-!
Answers over one table. The series of an answer hold direct counts of the table's rows, at every date
and combination where something is counted.
-/

namespace Analytics

def Database.runs (db : Database) (s : SeriesStatement) : Bool :=
  s.branches.length ≤ maxBranches && s.branches.all fun b => db.knows b.relations b.columns

theorem QueryPlan.total_placed (p : QueryPlan) (m : PlannedMetric) (date : String)
    (key : List GroupValue) (rows : List ResultRow) :
    total m date ((rows.filterMap p.datedRow?).filter fun r => r.combinations.contains key)
      = (rows.filterMap (p.placed? date key)).foldl (fun (sum : Binary64) r =>
          sum.add (ResultValue.number (ResultRow.cell r.row m.title.text))) .zero := by
  unfold total
  rw [List.filter_filter, List.filter_filterMap]
  congr 2
  funext row
  unfold placed?
  congr 1
  funext r
  exact Bool.and_comm _ _

namespace Source

variable {s : Source} {p : QueryPlan} {t : Table} {db : Database} {statement : SeriesStatement}
  {rows : List ResultRow}

/-- Whether dates and combinations, each once, are all that a request asks for and all at which
something is counted. -/
structure Covers (s : Source) (p : QueryPlan) (t : Table) (dates : List String)
    (keys : List (List GroupValue)) : Prop where
  datesOnce : dates.Nodup
  keysOnce : keys.Nodup
  buckets : ∀ date ∈ p.buckets, date ∈ dates
  known : ∀ key ∈ p.knownCombinations, key ∈ keys
  counted : ∀ m ∈ p.metrics, ∀ key date, s.count p t m key date ≠ 0 → key ∈ keys ∧ date ∈ dates

def countedSeries (s : Source) (p : QueryPlan) (t : Table) (dates : List String)
    (keys : List (List GroupValue)) : List Series :=
  p.metrics.flatMap fun m => keys.map fun key =>
    ⟨p.seriesName m key, dates.map fun date => ⟨date, .ofInt (s.count p t m key date)⟩⟩

theorem series_tally (rowwise : s.IsRowwise) (built : s.build p = .ok statement)
    (once : p.columnNames.Nodup) (found : db.table? s.relation.table.text = some t)
    (clear : s.isClearIn p t = true) (answered : db.series? statement = some rows)
    (date : String) (key : List GroupValue) :
    Tally p (fun m => s.count p t m key date) (rows.filterMap (p.placed? date key)) := by
  unfold Database.series? at answered
  split at answered
  · cases answered
    refine (statement_tally rowwise built once found clear).perm ?_
    exact ((List.mergeSort_perm _ _).map _).filterMap _
  · cases answered

theorem answer_rows {row : ResultRow} (answered : db.series? statement = some rows)
    (member : row ∈ rows) : ∃ b ∈ statement.branches, ∃ first ∈ b.views db, ∃ views,
      row = b.resultRow first views := by
  unfold Database.series? at answered
  split at answered
  · cases answered
    obtain ⟨cell, sorted, rfl⟩ := List.mem_map.mp member
    obtain ⟨b, among, inside⟩ := List.mem_flatMap.mp (List.mem_mergeSort.mp sorted)
    rw [Branch.answer_views] at inside
    obtain ⟨group, gathered, made⟩ := List.mem_filterMap.mp inside
    obtain ⟨first, head, rfl⟩ := Option.map_eq_some_iff.mp made
    have counted := mem_gatherAll (List.mem_mergeSort.mp gathered) (List.mem_of_mem_head? head)
    rw [List.map_map, show (fun keyed : List Cell × RowView Column => keyed.2) ∘
      (fun v => (b.groupKey v, v)) = id from rfl, List.map_id] at counted
    exact ⟨b, among, first, counted, group.2, rfl⟩
  · cases answered

theorem answer_known {q : InsightQuery} {limit : Nat} (passes : q.Passes limit p)
    (built : s.build p = .ok statement) (answered : db.series? statement = some rows) :
    ((rows.filterMap p.datedRow?).any fun r => r.row.any fun cell => p.isStray cell.1) = false := by
  apply QueryPlan.rows_known passes
  intro row member cell inside
  obtain ⟨b, among, first, -, views, rfl⟩ := answer_rows answered member
  obtain ⟨selection, _, made⟩ := matched_right (Source.built built) among
  exact made.columnNames ▸ Branch.resultRow_names inside

theorem series_counts {q : InsightQuery} {limit : Nat} (passes : q.Passes limit p)
    (titles : (p.metrics.map (·.title.text)).Nodup) (rowwise : s.IsRowwise)
    (built : s.build p = .ok statement) (found : db.table? s.relation.table.text = some t)
    (clear : s.isClearIn p t = true) (answered : db.series? statement = some rows) :
    ∃ dates keys, s.Covers p t dates keys ∧
      p.seriesOfRows rows = .ok (s.countedSeries p t dates keys) := by
  have once := QueryPlan.columnNames_nodup passes titles
  have tally := series_tally rowwise built once found clear answered
  refine ⟨sortDistinct (fun a b => a < b) (p.buckets ++ (rows.filterMap p.datedRow?).map (·.date)),
    sortDistinct GroupValue.combinationBefore
      (p.knownCombinations ++ (rows.filterMap p.datedRow?).flatMap (·.combinations)),
    ⟨sortDistinct_nodup text_strict _, sortDistinct_nodup GroupValue.combination_strict _,
      ?_, ?_, ?_⟩, ?_⟩
  · exact fun date member => mem_sortDistinct.mpr (List.mem_append_left _ member)
  · exact fun key member => mem_sortDistinct.mpr (List.mem_append_left _ member)
  · intro m member key date counted
    obtain ⟨r, inside⟩ := (tally date key).some member counted
    obtain ⟨row, among, placed⟩ := List.mem_filterMap.mp inside
    obtain ⟨dated, has, rfl⟩ := QueryPlan.placed_iff.mp placed
    have known : r ∈ rows.filterMap p.datedRow? := List.mem_filterMap.mpr ⟨row, among, dated⟩
    exact ⟨mem_sortDistinct.mpr (List.mem_append_right _ (List.mem_flatMap.mpr ⟨r, known, has⟩)),
      mem_sortDistinct.mpr (List.mem_append_right _ (List.mem_map.mpr ⟨r, known, rfl⟩))⟩
  · unfold QueryPlan.seriesOfRows
    dsimp only
    rw [answer_known passes built answered, if_neg Bool.false_ne_true]
    unfold countedSeries
    congr 1
    refine List.flatMap_congr fun m member => List.map_congr_left fun key _ => ?_
    unfold QueryPlan.seriesOf
    dsimp only
    congr 1
    refine List.map_congr_left fun date _ => ?_
    rw [QueryPlan.total_placed, (tally date key).sum member]

end Source

namespace Prepared

def source (p : Prepared) : Source := p.resolved.source p.plan

def database (p : Prepared) (w : World) : Database := p.resolved.database w

end Prepared

namespace Engine

theorem run_eq (w : World) (p : Prepared) : run w p =
    match (p.database w).series? p.statement with
    | some rows => p.plan.seriesOfRows rows
    | none => .error (.statementFailed p.plan.insightId p.plan.insightType) := rfl

/-- Where the store runs a request's statement, the answer over one table has a series for each metric
and combination, which holds at every date the direct count of the table's rows. -/
theorem answers_count {w : World} {e e' : Engine} {q : InsightQuery} {prepared : Prepared} {t : Table}
    (done : e.prepare w q = (.ok prepared, e'))
    (titles : (prepared.plan.metrics.map (·.title.text)).Nodup)
    (rowwise : prepared.resolved.isRowwise = true)
    (found : (prepared.database w).table? prepared.source.relation.table.text = some t)
    (clear : prepared.source.isClearIn prepared.plan t = true) :
    ((prepared.database w).runs prepared.statement = true →
      ∃ dates keys, prepared.source.Covers prepared.plan t dates keys ∧
        e.query w q = (.ok (prepared.source.countedSeries prepared.plan t dates keys), e')) ∧
    ((prepared.database w).runs prepared.statement = false →
      e.query w q
        = (.error (.statementFailed prepared.plan.insightId prepared.plan.insightType), e')) := by
  obtain ⟨planned, _, built⟩ := prepare_ok done
  have passes := InsightQuery.passes planned
  have asked : e.query w q = (run w prepared, e') := by
    unfold query
    rw [done]
  rw [asked, run_eq]
  constructor
  · intro runs
    obtain ⟨rows, answered⟩ : ∃ rows, (prepared.database w).series? prepared.statement = some rows :=
      ⟨_, if_pos runs⟩
    obtain ⟨dates, keys, covers, series⟩ := Source.series_counts passes titles
      (Resolved.source_rowwise rowwise prepared.plan) built found clear answered
    refine ⟨dates, keys, covers, ?_⟩
    rw [answered]
    exact congrArg (·, e') series
  · intro stuck
    have unanswered : (prepared.database w).series? prepared.statement = none :=
      if_neg (Bool.eq_false_iff.mp stuck)
    rw [unanswered]

theorem exists_prepared (w : World) (e : Engine) (q : InsightQuery) (holds : Prepared → Bool)
    (checked : (match (e.prepare w q).1 with
      | .ok prepared => holds prepared
      | .error _ => false) = true) :
    ∃ prepared e', e.prepare w q = (.ok prepared, e') ∧ holds prepared = true := by
  cases done : e.prepare w q with
  | mk answer e' =>
    rw [done] at checked
    cases answer with
    | error fault => cases checked
    | ok prepared => exact ⟨prepared, e', rfl, checked⟩

def sampleVisits : Table :=
  let visits := [("a", "Graz"), ("a", "Bregenz"), ("b", "Graz"), ("b", "Linz")]
  ⟨sampleColumns, visits.map fun (session, city) =>
    [("website_id", .text "site"), ("session_id", .text session), ("event_name", .text "visit"),
      ("created_at", .text "1970-01-01 10:00:00"), ("created_date", .text "1970-01-01"),
      ("country", .text "AT"), ("os", .text "BSD"), ("city", .text city)]⟩

theorem answers_count_sample : ∃ prepared e',
    sampleEngine.prepare (sampleWorld sampleVisits) sampleRequest = (.ok prepared, e') ∧
      (prepared.plan.metrics.map fun m => prepared.source.count prepared.plan sampleVisits m
        [.label "BSD", .bucket 1] "1970-01-01") = [3, 2] ∧
      ∃ dates keys, prepared.source.Covers prepared.plan sampleVisits dates keys ∧
        sampleEngine.query (sampleWorld sampleVisits) sampleRequest
          = (.ok (prepared.source.countedSeries prepared.plan sampleVisits dates keys), e') := by
  obtain ⟨prepared, e', done, held⟩ := exists_prepared (sampleWorld sampleVisits) sampleEngine
    sampleRequest (fun prepared =>
      (match prepared.resolved with | .internal => true | _ => false)
        && (prepared.plan.metrics.map (·.title.text)).Nodup
        && prepared.source.isClearIn prepared.plan sampleVisits
        && (prepared.database (sampleWorld sampleVisits)).runs prepared.statement
        && (prepared.plan.metrics.map fun m => prepared.source.count prepared.plan sampleVisits m
            [.label "BSD", .bucket 1] "1970-01-01") = [3, 2]) (by decide +kernel)
  simp only [Bool.and_eq_true, decide_eq_true_eq] at held
  obtain ⟨⟨⟨⟨own, titles⟩, clear⟩, runs⟩, counted⟩ := held
  have internal : prepared.resolved = .internal := by
    split at own
    · assumption
    · cases own
  have found : (prepared.database (sampleWorld sampleVisits)).table?
      prepared.source.relation.table.text = some sampleVisits := by
    simp only [Prepared.database, Prepared.source, internal]
    simp [Resolved.database, Resolved.source, Internal.source, Internal.event, sampleWorld,
      Database.table?]
  have rowwise : prepared.resolved.isRowwise = true := by
    rw [internal]
    rfl
  exact ⟨prepared, e', done, counted, (answers_count done titles rowwise found clear).1 runs⟩

end Engine

end Analytics
