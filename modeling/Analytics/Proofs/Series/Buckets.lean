import Analytics.Proofs.Series.Values
import Analytics.Proofs.Source.Exchanged

/-!
Buckets and filters. A request with one bucket as its only group shows, at every date, the values of the
request with the filter of the same operator and operand. Main statement: so it is for every source,
where events of long tables have different ids and, if the bucket tests a parameter for null, all events
have the parameter.
-/

namespace Analytics

def Series.valueAt (s : Series) (date : String) : Binary64 :=
  ((s.data.find? fun point => point.date = date).map (·.value)).getD .zero

theorem Series.valueAt_dates (name : String) (dates : List String) (value : String → Binary64)
    (date : String) : Series.valueAt ⟨name, dates.map fun date => ⟨date, value date⟩⟩ date
      = if date ∈ dates then value date else .zero := by
  unfold valueAt
  dsimp only
  induction dates with
  | nil => rfl
  | cons first rest ih =>
    rw [List.map_cons, List.find?_cons]
    by_cases here : first = date
    · subst here
      simp
    · simp only [here, decide_false, ih, List.mem_cons, Ne.symm here, false_or]

namespace Branch

variable {b : Branch} {first : RowView Column} {views : List (RowView Column)}

def leading (b : Branch) (first : RowView Column) (views : List (RowView Column)) :
    List (String × Json) :=
  (dateColumnName, (b.label.eval first).toJson) ::
    b.metrics.map fun m => (m.title.text, Json.int (m.count.eval views))

theorem resultRow_leading {name : String} (other : name ∉ b.groups.map (·.title.text)) :
    ResultRow.cell (b.resultRow first views) name
      = ((Json.sortMembers (b.leading first views)).lookup name).getD .null := by
  have members : Json.sortMembers (b.members first views)
      = Json.insertAll (Json.sortMembers (b.leading first views))
        (b.groups.map fun c => (c.title.text, (c.expr.eval first).toJson)) := List.foldl_append
  unfold ResultRow.cell
  rw [resultRow_members, members, Json.lookup_insertAll_absent]
  rw [List.map_map]
  exact other

end Branch

namespace Source

variable {s s' : Source} {p p' : QueryPlan} {selection : Selection} {branch branch' : Branch}
  {date : String} {key : List GroupValue} {views : List (RowView Column)} {m : PlannedMetric}
  {b : Bucket} {field : String} {type : ValueType}

/-- In the branch that pins the buckets of a combination, one number at most counts at a date: that of
the row which stands for all that are there. -/
theorem items_pinned (made : s.Makes p selection branch)
    (chosen : selection ∈ branchSelections p.groups) (told : p.IsTold)
    (clear : ∀ v ∈ views, s.isClear 0 v p.groups = true) (pinned : key.map (·.choice) = selection) :
    items p m branch views date key =
      ((views.filter (s.isAt p date key)).head?.map fun first => ResultValue.number
        (ResultRow.cell (branch.resultRow first (views.filter (s.isAt p date key))) m.title.text)).toList
    := by
  unfold items
  rw [answer_pinned made chosen told clear pinned]
  cases here : views.filter (s.isAt p date key) with
  | nil => rfl
  | cons first rest =>
    have member := List.mem_filter.mp (here ▸ List.mem_cons_self : first ∈ views.filter _)
    rw [List.head?_cons, Option.bind_some, (placed_row made chosen told
      (clear first member.1)).mpr ⟨⟨pinned, member.2⟩, rfl⟩]
    rfl

theorem isClear_custom {v : RowView Column} (groups : p.groups = [b.group field type]) :
    s.isClear 0 v p.groups = true := by
  rw [groups]
  unfold isClear
  split <;> rfl

theorem isAt_bucket {column : StoredColumn Column} {pred : Predicate Column} {v : RowView Column}
    (groups : p.groups = [b.group field type])
    (read : s.groupColumn 0 (b.group field type) = .ok column)
    (compiled : Filter.compile type b.operator b.value column = .ok pred) :
    s.isAt p date [.bucket 0] v
      = ((pred.eval v).holds && decide ((s.dates.label p.window).eval v = .text date)) := by
  have accepted : b.accepts type column v = (pred.eval v).holds := by
    unfold Bucket.accepts
    rw [compiled]
  have has : s.hasValues 0 v [b.group field type] [.bucket 0] = (pred.eval v).holds := by
    unfold hasValues
    rw [read]
    dsimp only
    rw [hasValues, Bool.and_true, ← accepted]
    rfl
  unfold isAt
  rw [groups, has, Bool.and_comm]

theorem isAt_whole {v : RowView Column} (none : p.groups = []) :
    s.isAt p date [] v = decide ((s.dates.label p.window).eval v = .text date) := by
  unfold isAt
  rw [none, hasValues, Bool.and_true]

section

variable {db : Database} {pred : Predicate Column} {first first' : RowView Column}

theorem datedViews_label (member : first ∈ branch.datedViews db date) :
    branch.label.eval first = .text date :=
  of_decide_eq_true (List.mem_filter.mp member).2

theorem leading_alike (alike : branch.CountsAlike db pred branch')
    (member : first ∈ (branch.datedViews db date).filter fun v => (pred.eval v).holds)
    (member' : first' ∈ branch'.datedViews db date) :
    branch.leading first ((branch.datedViews db date).filter fun v => (pred.eval v).holds)
      = branch'.leading first' (branch'.datedViews db date) := by
  have metrics : branch.metrics.map (fun c => (c.title.text, Json.int (c.count.eval
        ((branch.datedViews db date).filter fun v => (pred.eval v).holds))))
      = branch'.metrics.map fun c =>
        (c.title.text, Json.int (c.count.eval (branch'.datedViews db date))) :=
    matched_map ((alike.metrics date).imp fun c c' pair => by rw [pair.1, pair.2])
  unfold Branch.leading
  rw [datedViews_label (List.mem_filter.mp member).1, datedViews_label member', metrics]

theorem items_alike (date : String) (groups : p.groups = [b.group field type]) (groups' : p'.groups = [])
    (made : s.Makes p [some 0] branch) (made' : s'.Makes p' [] branch') (told : p.IsTold)
    (told' : p'.IsTold) {column : StoredColumn Column}
    (read : s.groupColumn 0 (b.group field type) = .ok column)
    (compiled : Filter.compile type b.operator b.value column = .ok pred)
    (alike : branch.CountsAlike db pred branch') (unmarked : isMarked m.title.text = false)
    (marked : ∀ name ∈ p.groupTitles, isMarked name = true) :
    items p m branch (branch.views db) date [.bucket 0]
      = items p' m branch' (branch'.views db) date [] := by
  have rows : (branch.views db).filter (s.isAt p date [.bucket 0])
      = (branch.datedViews db date).filter fun v => (pred.eval v).holds := by
    unfold Branch.datedViews
    rw [List.filter_filter, made.label]
    exact List.filter_congr fun v _ => isAt_bucket groups read compiled
  have rows' : (branch'.views db).filter (s'.isAt p' date []) = branch'.datedViews db date := by
    unfold Branch.datedViews
    rw [made'.label]
    exact List.filter_congr fun v _ => isAt_whole groups'
  have chosen : [some 0] ∈ branchSelections p.groups := groups ▸ List.mem_cons_self
  have chosen' : [] ∈ branchSelections p'.groups := groups' ▸ List.mem_cons_self
  rw [items_pinned made chosen told (fun v _ => isClear_custom groups) rfl,
    items_pinned made' chosen' told' (fun v _ => by rw [groups']; rfl) rfl, rows, rows']
  -- Each branch shows one row at the date, or none if nothing is counted there.
  cases here' : branch'.datedViews db date with
  | nil => rw [(alike.none date).mpr here']; rfl
  | cons first' rest' =>
    obtain ⟨first, rest, here⟩ := List.exists_cons_of_ne_nil
      (mt (alike.none date).mp (here' ▸ List.cons_ne_nil _ _))
    have member : first ∈ (branch.datedViews db date).filter fun v => (pred.eval v).holds :=
      here ▸ List.mem_cons_self
    have member' : first' ∈ branch'.datedViews db date := here' ▸ List.mem_cons_self
    have leading := leading_alike alike member member'
    have other : m.title.text ∉ branch.groups.map (·.title.text) := by
      rw [made.groupNames]
      intro member
      rw [marked _ member] at unmarked
      cases unmarked
    have other' : m.title.text ∉ branch'.groups.map (·.title.text) := by
      rw [alike.groups]
      exact List.not_mem_nil
    rw [← here', here, List.head?_cons, here', List.head?_cons, Option.map_some, Option.map_some,
      Branch.resultRow_leading other, Branch.resultRow_leading other', ← here, ← here', leading]

end

end Source

namespace QueryPlan

variable {p : QueryPlan} {rows : List ResultRow} {key : List GroupValue} {b : Bucket} {field : String}
  {type : ValueType}

theorem keysOf_single (known : p.knownCombinations = [key])
    (only : ∀ row, ∀ k ∈ combinations (p.groups.map (GroupPlan.valuesOf row)), k = key) :
    p.keysOf rows = [key] := by
  unfold keysOf
  rw [known]
  refine sortDistinct_single GroupValue.combination_strict ?_ List.mem_cons_self
  refine List.forall_mem_cons.mpr ⟨rfl, fun k member => ?_⟩
  obtain ⟨r, among, inside⟩ := List.mem_flatMap.mp member
  obtain ⟨row, _, dated⟩ := List.mem_filterMap.mp among
  obtain ⟨date, _, rfl⟩ := Option.map_eq_some_iff.mp dated
  exact only row k inside

theorem keysOf_bucket (groups : p.groups = [b.group field type]) : p.keysOf rows = [[.bucket 0]] := by
  refine keysOf_single ?_ fun row k member => ?_
  · unfold knownCombinations
    rw [groups]
    rfl
  · rw [groups] at member
    change k ∈ combinations [GroupPlan.flagged row 0 [b]] at member
    unfold GroupPlan.flagged at member
    split at member
    · exact List.mem_singleton.mp member
    · cases member

theorem keysOf_whole (none : p.groups = []) : p.keysOf rows = [[]] := by
  refine keysOf_single ?_ fun row k member => ?_
  · unfold knownCombinations
    rw [none]
    rfl
  · rw [none] at member
    exact List.mem_singleton.mp member

theorem shown_single (single : p.keysOf rows = [key]) : p.shown rows = p.metrics.map fun m =>
    ⟨p.seriesName m key, (p.datesOf rows).map fun date => ⟨date, p.value rows m key date⟩⟩ := by
  unfold shown
  rw [single, List.map_eq_flatMap]
  rfl

theorem valueAt_shown {name date : String} {m : PlannedMetric} :
    Series.valueAt ⟨name, (p.datesOf rows).map fun date => ⟨date, p.value rows m key date⟩⟩ date
      = p.value rows m key date := by
  rw [Series.valueAt_dates]
  split
  · rfl
  · rename_i absent
    exact (value_absent (Or.inr absent)).symm

end QueryPlan

namespace Source

variable {s s' : Source} {p p' : QueryPlan} {b : Bucket} {field : String} {type : ValueType}
  {branch branch' : Branch} {db : Database} {pred : Predicate Column} {rows rows' : List ResultRow}

theorem bucket_branch {statement : SeriesStatement} (groups : p.groups = [b.group field type])
    (built : s.build p = .ok statement) :
    ∃ branch, statement = ⟨[branch]⟩ ∧ s.Makes p [some 0] branch := by
  have matched := Source.built built
  rw [groups] at matched
  obtain ⟨branch, others, made, none, branches⟩ := List.forall₂_cons_left_iff.mp matched
  cases none
  exact ⟨branch, congrArg SeriesStatement.mk branches, made⟩

theorem build_whole (none : p.groups = []) (made : s.branch p [] = .ok branch) :
    s.build p = .ok ⟨[branch]⟩ := by
  unfold build
  rw [none]
  change Except.map SeriesStatement.mk (checkAll _ [[]]) = _
  unfold checkAll
  rw [made]
  rfl

theorem shown_alike {q : InsightQuery} {limit : Nat} (passes : q.Passes limit p) (told' : p'.IsTold)
    (groups : p.groups = [b.group field type]) (groups' : p'.groups = [])
    (metrics : p'.metrics = p.metrics) (built : s.build p = .ok ⟨[branch]⟩)
    (built' : s'.build p' = .ok ⟨[branch']⟩) {column : StoredColumn Column}
    (read : s.groupColumn 0 (b.group field type) = .ok column)
    (compiled : Filter.compile type b.operator b.value column = .ok pred)
    (alike : branch.CountsAlike db pred branch') (answered : db.series? ⟨[branch]⟩ = some rows)
    (answered' : db.series? ⟨[branch']⟩ = some rows') :
    List.Forall₂ (fun series series' : Series => series.name = series'.name ++ "-" ++ b.label ∧
      ∀ date, series.valueAt date = series'.valueAt date) (p.shown rows) (p'.shown rows') := by
  have told := QueryPlan.isTold passes
  have made : s.Makes p [some 0] branch := by
    have matched := Source.built built
    rw [groups] at matched
    exact (List.forall₂_cons.mp matched).1
  have made' : s'.Makes p' [] branch' := by
    have matched := Source.built built'
    rw [groups'] at matched
    exact (List.forall₂_cons.mp matched).1
  rw [QueryPlan.shown_single (QueryPlan.keysOf_bucket groups),
    QueryPlan.shown_single (QueryPlan.keysOf_whole groups'), metrics, List.forall₂_map_left_iff,
    List.forall₂_map_right_iff, List.forall₂_same]
  intro m member
  constructor
  · unfold QueryPlan.seriesName
    rw [groups, groups']
    rfl
  · intro date
    have unmarked := (QueryPlan.metric_unmarked passes (List.mem_map_of_mem member)).2
    have items := items_alike date groups groups' made made' told told' read compiled alike
      unmarked fun _ => QueryPlan.group_marked passes
    rw [QueryPlan.valueAt_shown, QueryPlan.valueAt_shown, value_items built told answered,
      value_items built' told' answered', List.flatMap_singleton, List.flatMap_singleton, items]

end Source

namespace Prepared

/-- Whether events of a long table have different ids and, where a group tests a parameter for null,
all events that a branch selects have the parameter. -/
def tellsParameters (p : Prepared) (w : World) : Bool :=
  p.plan.groups.all fun g => p.statement.branches.all fun b =>
    p.resolved.tellsParameters (p.database w) g b

end Prepared

theorem Resolved.source_dates (r : Resolved) (p p' : QueryPlan) :
    (r.source p').dates = (r.source p).dates := by
  cases r <;> rfl

namespace Engine

variable {w : World} {e e' : Engine} {q q' : InsightQuery} {prepared : Prepared}

theorem prepare_alike (made : e.prepare w q = (.ok prepared, e')) {p : QueryPlan}
    {statement : SeriesStatement} (planned : q'.plan e.maxBuckets = .ok p)
    (id : p.insightId = prepared.plan.insightId) (type : p.insightType = prepared.plan.insightType)
    (built : (prepared.resolved.source p).build p = .ok statement)
    (runs : (prepared.resolved.source p).stops p = false) :
    e.prepare w q' = (.ok ⟨p, prepared.resolved, statement⟩, e') := by
  obtain ⟨own, found, _⟩ := prepare_ok made
  unfold Engine.prepare Engine.locate at made ⊢
  rw [own] at made
  rw [planned]
  dsimp only at made ⊢
  rw [id, type]
  cases resolved : e.registry.resolve w.canOpen prepared.plan.insightId prepared.plan.insightType with
  | mk answer registry =>
    rw [resolved] at found made
    cases found
    have registered : { e with registry := registry } = e' := (Prod.mk.inj made).2
    change (if (prepared.resolved.source p).stops p then _
      else ((prepared.resolved.source p).build p).map _, _) = _
    rw [runs, built, registered]
    rfl

/-- A bucket and the filter of the same operator and operand mean the same: where events of a long table
have different ids and, if a parameter is tested for null, all events that are selected have it, the
series of a request with the bucket as its only group show, at every date, the values of the request
with the filter. -/
theorem bucket_is_filter {f : RequestedFilter} {bucketed : List Series} (ungrouped : q.groups = [])
    (made : e.prepare w (q.withBucket f) = (.ok prepared, e'))
    (tells : prepared.tellsParameters w = true)
    (answered : e.query w (q.withBucket f) = (.ok bucketed, e')) :
    ∃ b filtered, GroupPlan.planBucket f.name f.type ⟨f.operator, f.value⟩ = .ok b ∧
      e.query w (q.withFilter f) = (.ok filtered, e') ∧
      List.Forall₂ (fun series series' => series.name = series'.name ++ "-" ++ b.label ∧
        ∀ date, series.valueAt date = series'.valueAt date) bucketed filtered := by
  obtain ⟨rows, ran, rfl⟩ := query_rows made answered
  obtain ⟨⟨planned, _, built⟩, runs⟩ := prepare_steps made
  have passes := InsightQuery.passes planned
  obtain ⟨b, bucket, groups, planned'⟩ := InsightQuery.filter_planned ungrouped passes
  obtain ⟨branch, single, branchMade⟩ := Source.bucket_branch groups built
  rw [single] at built ran
  have knows := Database.runs_single.mp (Database.series_runs ran)
  have apart : prepared.resolved.tellsParameters (prepared.database w) (b.group f.name f.type) branch
      = true := by
    unfold Prepared.tellsParameters at tells
    rw [groups, single] at tells
    exact List.all_eq_true.mp (List.all_eq_true.mp tells _ List.mem_cons_self) _ List.mem_cons_self
  obtain ⟨column, pred, branch', read, compiled, filtered, alike⟩ := Resolved.counts_alike groups
    branchMade knows (GroupPlan.planBucket_ok bucket).listed apart
  have built' := Source.build_whole rfl filtered
  have made' := prepare_alike made planned' rfl rfl built'
    (Source.runs_alike built runs (prepared.resolved.source_dates _ _) rfl)
  obtain ⟨rows', ran'⟩ := Database.series_some (Database.runs_single.mpr alike.knows)
  exact ⟨b, _, bucket, query_answered made' ran', Source.shown_alike passes
    (QueryPlan.isTold (InsightQuery.passes planned')) groups rfl rfl built built' read compiled alike
    ran ran'⟩

def sampleSales : LongTable :=
  ⟨"shop", none, ⟨⟨"sales", rfl⟩, ⟨"number", rfl⟩, ⟨"action", rfl⟩, some ⟨"visit", rfl⟩, ⟨"sold", rfl⟩,
    .timestamp, none, Zone.utc⟩, ⟨⟨"details", rfl⟩, ⟨"sale", rfl⟩, ⟨"detail", rfl⟩, ⟨"content", rfl⟩,
    none, none, none⟩⟩

def sampleSalesEngine : Engine :=
  ⟨.sqlite, ⟨true, some "sqlite::memory:", ⟨"", some [.long sampleSales]⟩, []⟩, 10, 10, 100⟩

def sampleSalesStore (plans : List (Int × Cell)) : Database :=
  let sale (number : Int) : TableRow :=
    [("number", .int number), ("action", .text "sale"), ("visit", .text "v"), ("sold", .int 0)]
  let detail (plan : Int × Cell) : TableRow :=
    [("sale", .int plan.1), ("detail", .text "plan"), ("content", plan.2)]
  ⟨[("sales", Table.ofRows [("number", .integer), ("action", .text), ("visit", .text),
      ("sold", .integer)] [sale 1, sale 2]),
    ("details", Table.ofRows [("sale", .integer), ("detail", .text), ("content", .text)]
      (plans.map detail))]⟩

def sampleSalesWorld (plans : List (Int × Cell)) : World :=
  ⟨fun _ => true, .empty, fun _ => sampleSalesStore plans⟩

def sampleSalesRequest : InsightQuery :=
  { sampleRequest with
    insightId := "shop"
    insightType := .longTable
    metrics := [⟨"sale", .events⟩, ⟨"sale", .sessions⟩]
    filters := []
    groups := [] }

def sampleNoPlan : RequestedFilter := ⟨"plan", .string, "is-null", .null⟩

theorem bucket_is_filter_sample : ∃ prepared b bucketed filtered e',
    sampleSalesEngine.prepare (sampleSalesWorld [(1, .null), (1, .text "pro"), (2, .text "pro")])
      (sampleSalesRequest.withBucket sampleNoPlan) = (.ok prepared, e') ∧
    prepared.tellsParameters
      (sampleSalesWorld [(1, .null), (1, .text "pro"), (2, .text "pro")]) = true ∧
    GroupPlan.planBucket "plan" .string ⟨"is-null", .null⟩ = .ok b ∧
    sampleSalesEngine.query (sampleSalesWorld [(1, .null), (1, .text "pro"), (2, .text "pro")])
      (sampleSalesRequest.withBucket sampleNoPlan) = (.ok bucketed, e') ∧
    sampleSalesEngine.query (sampleSalesWorld [(1, .null), (1, .text "pro"), (2, .text "pro")])
      (sampleSalesRequest.withFilter sampleNoPlan) = (.ok filtered, e') ∧
    List.Forall₂ (fun series series' : Series => series.name = series'.name ++ "-" ++ b.label ∧
      ∀ date, series.valueAt date = series'.valueAt date) bucketed filtered := by
  generalize world : sampleSalesWorld [(1, .null), (1, .text "pro"), (2, .text "pro")] = w
  obtain ⟨prepared, e', made, held⟩ := exists_prepared w sampleSalesEngine
    (sampleSalesRequest.withBucket sampleNoPlan) (fun prepared =>
      (prepared.database w).runs prepared.statement && prepared.tellsParameters w)
    (by subst world; decide +kernel)
  obtain ⟨runs, tells⟩ := Bool.and_eq_true_iff.mp held
  obtain ⟨rows, ran⟩ := Database.series_some runs
  have answered := query_answered made ran
  obtain ⟨b, filtered, bucket, asked, alike⟩ := bucket_is_filter rfl made tells answered
  exact ⟨prepared, b, _, filtered, e', made, tells, bucket, answered, asked, alike⟩

/-- Whether a prepared request is answered, with series that show something. -/
def shows {α : Type} [DecidableEq α] (w : World) (read : List Series → α) (shown : α) (p : Prepared) :
    Bool :=
  match (p.database w).series? p.statement with
  | some rows => read (p.plan.shown rows) = shown
  | none => false

theorem query_shown {α : Type} [DecidableEq α] {read : List Series → α} {shown : α}
    (made : e.prepare w q = (.ok prepared, e')) (held : shows w read shown prepared = true) :
    ∃ series, e.query w q = (.ok series, e') ∧ read series = shown := by
  unfold shows at held
  split at held
  · rename_i rows answered
    exact ⟨_, query_answered made answered, of_decide_eq_true held⟩
  · cases held

def valuesAt (date : String) (series : List Series) : List Binary64 := series.map (·.valueAt date)

/-- A sale without plan is in the bucket of no plan, but the filter does not keep it. -/
theorem bucket_keeps_missing : ∃ bucketed filtered e' e'',
    sampleSales.idsApart (sampleSalesStore []) = true ∧
    sampleSalesEngine.query (sampleSalesWorld [])
      (sampleSalesRequest.withBucket sampleNoPlan) = (.ok bucketed, e') ∧
    sampleSalesEngine.query (sampleSalesWorld [])
      (sampleSalesRequest.withFilter sampleNoPlan) = (.ok filtered, e'') ∧
    bucketed.map (·.valueAt "1970-01-01") = [.ofInt 2, .ofInt 1] ∧
    filtered.map (·.valueAt "1970-01-01") = [.zero, .zero] := by
  obtain ⟨prepared, e', made, shown⟩ := exists_prepared (sampleSalesWorld []) sampleSalesEngine
    (sampleSalesRequest.withBucket sampleNoPlan)
    (shows (sampleSalesWorld []) (valuesAt "1970-01-01") [.ofInt 2, .ofInt 1]) (by decide +kernel)
  obtain ⟨filtering, e'', made', shown'⟩ := exists_prepared (sampleSalesWorld []) sampleSalesEngine
    (sampleSalesRequest.withFilter sampleNoPlan)
    (shows (sampleSalesWorld []) (valuesAt "1970-01-01") [.zero, .zero]) (by decide +kernel)
  obtain ⟨bucketed, asked, bucket⟩ := query_shown made shown
  obtain ⟨filtered, asked', filter⟩ := query_shown made' shown'
  exact ⟨bucketed, filtered, e', e'', by decide +kernel, asked, asked', bucket, filter⟩

end Engine

end Analytics
