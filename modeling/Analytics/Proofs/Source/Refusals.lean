import Analytics.Proofs.Series.Shapes
import Analytics.Proofs.Time.Windows

/-!
Refusals of sources. What a source says no to is one part of a plan: a metric, a filter, the field of a
group or one of its buckets; every bucket is looked at, for some branch counts it. Main statement: over
the service's own events a plan is refused just for a field that is no dimension or for an operand that
does not compile.
-/

namespace Analytics

namespace GroupPlan

/-- The buckets of a group; a raw one has none. -/
def buckets (g : GroupPlan) : List Bucket :=
  match g.form with
  | .raw _ => []
  | .custom buckets => buckets

theorem mem_buckets {g : GroupPlan} {b : Bucket} :
    b ∈ g.buckets ↔ ∃ buckets, g.form = .custom buckets ∧ b ∈ buckets := by
  unfold buckets
  cases g.form with
  | raw title => simp
  | custom buckets => simp

end GroupPlan

namespace GroupColumn

variable {type : ValueType} {column : StoredColumn Column} {pinned : Option Nat} {e : Error}

theorem ofBuckets_error {position : Nat} {bs : List Bucket}
    (failed : ofBuckets type column pinned position bs = .error e) :
    ∃ b ∈ bs, Filter.compile type b.operator b.value column = .error e := by
  induction bs generalizing position with
  | nil => cases failed
  | cons b rest ih =>
    unfold ofBuckets at failed
    dsimp only at failed
    split at failed
    · rename_i fault chosen
      cases failed
      split at chosen
      · exact ⟨b, List.mem_cons_self, map_error chosen⟩
      · cases chosen
    · obtain ⟨b', later, own⟩ := ih (map_error failed)
      exact ⟨b', List.mem_cons_of_mem b later, own⟩

theorem ofPlan_error {g : GroupPlan} (failed : ofPlan g column pinned = .error e) :
    ∃ b ∈ g.buckets, Filter.compile g.type b.operator b.value column = .error e := by
  unfold ofPlan at failed
  unfold GroupPlan.buckets
  cases form : g.form with
  | raw title =>
    rw [form] at failed
    cases failed
  | custom buckets =>
    rw [form] at failed
    exact ofBuckets_error failed

end GroupColumn

namespace Source

inductive Refuses (s : Source) (p : QueryPlan) (e : Error) : Prop
  | metric {m : PlannedMetric} (asked : m ∈ p.metrics) (failed : s.metric m = .error e)
  | event (failed : s.eventCondition p = .error e)
  | filter {f : PlannedFilter} (asked : f ∈ p.filters) (failed : s.filter f = .error e)
  | field {j : Nat} {g : GroupPlan} (placed : p.groups[j]? = some g)
    (failed : s.groupColumn j g = .error e)
  | bucket {j : Nat} {g : GroupPlan} {column : StoredColumn Column} {b : Bucket}
    (placed : p.groups[j]? = some g) (read : s.groupColumn j g = .ok column)
    (asked : b ∈ g.buckets) (failed : Filter.compile g.type b.operator b.value column = .error e)

variable {s : Source} {p : QueryPlan} {e : Error}

theorem groupColumns_error {index : Nat} {groups : List GroupPlan} {selection : Selection}
    (failed : s.groupColumns index groups selection = .error e) : ∃ j g, groups[j]? = some g ∧
      (s.groupColumn (index + j) g = .error e ∨ ∃ column, s.groupColumn (index + j) g = .ok column ∧
        ∃ b ∈ g.buckets, Filter.compile g.type b.operator b.value column = .error e) := by
  induction groups generalizing index selection with
  | nil => cases failed
  | cons g rest ih =>
    unfold groupColumns at failed
    split at failed
    · rename_i fault read
      cases failed
      exact ⟨0, g, rfl, .inl read⟩
    rename_i column read
    split at failed
    · rename_i fault planned
      cases failed
      exact ⟨0, g, rfl, .inr ⟨column, read, GroupColumn.ofPlan_error planned⟩⟩
    obtain ⟨j, g', placed, own⟩ := ih (map_error failed)
    rw [Nat.add_assoc, Nat.add_comm 1] at own
    exact ⟨j + 1, g', placed, own⟩

theorem branch_error {selection : Selection} (failed : s.branch p selection = .error e) :
    s.Refuses p e := by
  unfold Source.branch at failed
  split at failed
  · rename_i fault counted
    cases failed
    obtain ⟨m, asked, own⟩ := checkAll_error counted
    exact .metric asked own
  split at failed
  · rename_i fault grouped
    cases failed
    obtain ⟨j, g, placed, own⟩ := groupColumns_error grouped
    rw [Nat.zero_add] at own
    rcases own with own | ⟨column, read, b, asked, own⟩
    · exact .field placed own
    · exact .bucket placed read asked own
  have confined := map_error failed
  unfold Source.conditions at confined
  split at confined
  · rename_i fault known
    cases confined
    exact .event known
  obtain ⟨f, asked, own⟩ := checkAll_error (map_error confined)
  exact .filter asked own

theorem build_error (failed : s.build p = .error e) : s.Refuses p e := by
  obtain ⟨selection, -, own⟩ := checkAll_error (map_error failed)
  exact branch_error own

/-- A plan that is built has no part that is refused: each branch looks at the metrics, the filters and
the fields of the groups, and each bucket is compiled for some branch. -/
theorem build_ok (filled : ∀ g ∈ p.groups, g.form ≠ .custom []) {statement : SeriesStatement}
    (built : s.build p = .ok statement) : ¬ s.Refuses p e := by
  have choosable : ∀ g ∈ p.groups, ∃ choice, GroupPlan.Chooses choice g :=
    fun g member => GroupPlan.choosable (filled g member)
  obtain ⟨selection, chosen⟩ := exists_selection choosable
  obtain ⟨b, -, made⟩ :=
    matched_right (Source.built built).flip (mem_branchSelections.mpr chosen)
  obtain ⟨event, filters, known, filtered, -⟩ := conditions_ok made.conditions
  intro refuses
  cases refuses with
  | metric asked failed =>
    obtain ⟨c, -, passed⟩ := matched_right (checkAll_ok made.metrics).flip asked
    rw [passed] at failed
    cases failed
  | event failed =>
    rw [known] at failed
    cases failed
  | filter asked failed =>
    obtain ⟨c, -, passed⟩ := matched_right (checkAll_ok filtered).flip asked
    rw [passed] at failed
    cases failed
  | field placed failed =>
    obtain ⟨choice, can⟩ := choosable _ (List.mem_of_getElem? placed)
    obtain ⟨column, -, passed, -⟩ := built_pinned choosable built placed can
    rw [passed] at failed
    cases failed
  | @bucket j g column b placed read asked failed =>
    obtain ⟨buckets, form, member⟩ := GroupPlan.mem_buckets.mp asked
    obtain ⟨column', flag, passed, compiled, -⟩ :=
      flagged_of_choosable choosable built placed form member
    obtain rfl := Except.ok.inj (passed.symm.trans read)
    rw [compiled] at failed
    cases failed

end Source

namespace Internal

variable {p : QueryPlan} {e : Error}

theorem dimension_ok_iff {field : String} {column : StoredColumn Column} :
    dimension field = .ok column ↔
      ∃ name ∈ dimensions, name.text = field ∧ column = ⟨event.column name, .native⟩ := by
  unfold dimension
  constructor
  · intro read
    split at read
    · rename_i name found
      cases read
      have same := List.find?_some found
      exact ⟨name, List.mem_of_find?_eq_some found, of_decide_eq_true same, rfl⟩
    · cases read
  · rintro ⟨name, listed, rfl, rfl⟩
    cases found : dimensions.find? fun other => decide (other.text = name.text) with
    | none =>
      have other := List.find?_eq_none.mp found name listed
      rw [decide_eq_true_iff] at other
      exact absurd rfl other
    | some other =>
      have same := List.find?_some found
      rw [decide_eq_true_iff] at same
      obtain ⟨text, safe⟩ := other
      cases same
      rfl

theorem filter_ok_iff {f : PlannedFilter} : (∃ c, filter f = .ok c) ↔
    ∃ name ∈ dimensions, name.text = f.field ∧ ∃ test, Filter.compile f.type f.operator f.value
      ⟨event.column name, .native⟩ = .ok test := by
  unfold filter
  constructor
  · rintro ⟨c, passed⟩
    split at passed
    · cases passed
    · rename_i column read
      obtain ⟨test, compiled, -⟩ := map_ok passed
      obtain ⟨name, listed, named, rfl⟩ := dimension_ok_iff.mp read
      exact ⟨name, listed, named, test, compiled⟩
  · rintro ⟨name, listed, named, test, compiled⟩
    rw [dimension_ok_iff.mpr ⟨name, listed, named, rfl⟩]
    exact ⟨.plain test, by simp only [compiled]; rfl⟩

theorem metric_counted (website : String) (m : PlannedMetric) :
    ∃ c, (source website).metric m = .ok c := by
  have named : ∃ event, (source website).eventOf m = .ok event := by
    unfold Source.eventOf
    split
    · exact ⟨_, rfl⟩
    · exact ⟨_, rfl⟩
  have counted : ∃ column, (source website).countedOf m = .ok column := by
    unfold Source.countedOf
    cases m.math with
    | events => exact ⟨_, rfl⟩
    | sessions => exact ⟨_, rfl⟩
  obtain ⟨event, known⟩ := named
  obtain ⟨column, read⟩ := counted
  unfold Source.metric
  rw [known, read]
  exact ⟨_, rfl⟩

theorem eventCondition_ok (website : String) (p : QueryPlan) :
    ∃ c, (source website).eventCondition p = .ok c := by
  unfold Source.eventCondition
  split
  · exact ⟨_, rfl⟩
  · exact ⟨_, rfl⟩

theorem refuses_cases (refuses : (source p.insightId).Refuses p e) :
    (∃ f ∈ p.filters, filter f = .error e) ∨ ∃ g ∈ p.groups, dimension g.field = .error e ∨
      ∃ column, dimension g.field = .ok column ∧
        ∃ b ∈ g.buckets, Filter.compile g.type b.operator b.value column = .error e := by
  cases refuses with
  | @metric m _ failed =>
    obtain ⟨c, passed⟩ := metric_counted p.insightId m
    rw [passed] at failed
    cases failed
  | event failed =>
    obtain ⟨c, passed⟩ := eventCondition_ok p.insightId p
    rw [passed] at failed
    cases failed
  | filter asked failed => exact .inl ⟨_, asked, failed⟩
  | field placed failed => exact .inr ⟨_, List.mem_of_getElem? placed, .inl failed⟩
  | bucket placed read asked failed =>
    exact .inr ⟨_, List.mem_of_getElem? placed, .inr ⟨_, read, _, asked, failed⟩⟩

/-- A plan whose fields are listed dimensions and whose operands compile, also those of all buckets. -/
structure Accepts (p : QueryPlan) : Prop where
  filters : ∀ f ∈ p.filters, ∃ name ∈ dimensions, name.text = f.field ∧ ∃ test,
    Filter.compile f.type f.operator f.value ⟨event.column name, .native⟩ = .ok test
  groups : ∀ g ∈ p.groups, ∃ name ∈ dimensions, name.text = g.field ∧ ∀ b ∈ g.buckets, ∃ test,
    Filter.compile g.type b.operator b.value ⟨event.column name, .native⟩ = .ok test

theorem Accepts.not_refuses (accepts : Accepts p) : ¬ (source p.insightId).Refuses p e := by
  intro refuses
  rcases refuses_cases refuses with ⟨f, asked, failed⟩ | ⟨g, asked, own⟩
  · obtain ⟨c, passed⟩ := filter_ok_iff.mpr (accepts.filters f asked)
    rw [passed] at failed
    cases failed
  obtain ⟨name, listed, named, compiles⟩ := accepts.groups g asked
  have read := dimension_ok_iff.mpr ⟨name, listed, named, rfl⟩
  rcases own with failed | ⟨column, read', b, among, failed⟩
  · rw [read] at failed
    cases failed
  · obtain rfl := Except.ok.inj (read.symm.trans read')
    obtain ⟨test, compiled⟩ := compiles b among
    rw [compiled] at failed
    cases failed

theorem accepts_of_not_refuses (sound : ∀ e, ¬ (source p.insightId).Refuses p e) : Accepts p where
  filters f asked := by
    cases passed : filter f with
    | error e => exact absurd (.filter asked passed) (sound e)
    | ok c => exact filter_ok_iff.mp ⟨c, passed⟩
  groups g asked := by
    obtain ⟨j, placed⟩ := List.mem_iff_getElem?.mp asked
    cases read : dimension g.field with
    | error e => exact absurd (.field placed read) (sound e)
    | ok column =>
      obtain ⟨name, listed, named, rfl⟩ := dimension_ok_iff.mp read
      refine ⟨name, listed, named, fun b among => ?_⟩
      cases compiled : Filter.compile g.type b.operator b.value ⟨event.column name, .native⟩ with
      | error e => exact absurd (.bucket placed read among compiled) (sound e)
      | ok test => exact ⟨test, rfl⟩

/-- A plan over the service's own events is built if and only if all its fields are listed dimensions
and the operands of its filters and of all buckets compile; custom groups have buckets, as planned
ones do. A plan that is not built fails with the fault of such a part. A statement that is built has
the branch of every selection, and each bucket is counted by one of them. -/
theorem build_ok_iff (p : QueryPlan) (filled : ∀ g ∈ p.groups, g.form ≠ .custom []) :
    ((∃ s, (source p.insightId).build p = .ok s) ↔ Accepts p) ∧
    (∀ e, (source p.insightId).build p = .error e →
      (∃ f ∈ p.filters, filter f = .error e) ∨ ∃ g ∈ p.groups, dimension g.field = .error e ∨
        ∃ column, dimension g.field = .ok column ∧
          ∃ b ∈ g.buckets, Filter.compile g.type b.operator b.value column = .error e) ∧
    ∀ s, (source p.insightId).build p = .ok s →
      List.Forall₂ (fun selection branch => (source p.insightId).branch p selection = .ok branch)
        (branchSelections p.groups) s.branches ∧
      ∀ g ∈ p.groups, ∀ b ∈ g.buckets, ∃ column test, dimension g.field = .ok column ∧
        Filter.compile g.type b.operator b.value column = .ok test ∧
          ∃ branch ∈ s.branches, ⟨.flag test, b.title⟩ ∈ branch.groups := by
  refine ⟨⟨fun ⟨s, built⟩ => ?_, fun accepts => ?_⟩, fun e failed => ?_, fun s built => ⟨?_, ?_⟩⟩
  · exact accepts_of_not_refuses fun e => Source.build_ok filled built
  · cases done : (source p.insightId).build p with
    | error e => exact absurd (Source.build_error done) accepts.not_refuses
    | ok s => exact ⟨s, rfl⟩
  · exact refuses_cases (Source.build_error failed)
  · obtain ⟨branches, passed, rfl⟩ := map_ok built
    exact checkAll_ok passed
  · intro g asked b among
    obtain ⟨j, placed⟩ := List.mem_iff_getElem?.mp asked
    obtain ⟨buckets, form, member⟩ := GroupPlan.mem_buckets.mp among
    exact Source.flagged_of_choosable (fun g asked => GroupPlan.choosable (filled g asked)) built
      placed form member

/-- No request about the service's own events stops the program once it is planned: dates stand for
times in windows of whole days alone, whose buckets are listed by then. -/
theorem never_stops {q : InsightQuery} {limit : Nat} (planned : q.plan limit = .ok p) :
    (source p.insightId).stops p = false := by
  have passes := InsightQuery.passes planned
  by_cases empty : p.window.start = p.window.finish
  · have short : p.window.lastsDay = false := by
      rw [Window.lastsDay, empty, Instant.nanosBetween]
      simp [nanosPerSecond]
    have precise : ((source p.insightId).dates.chosen p.window).2 = .datetime := by
      simp [source, DateSource.chosen, DateSource.suitsDates, short]
    rw [Source.stops, precise]
    rfl
  · rw [Source.stops, Window.showsDates_of_labels empty passes.buckets, Bool.not_true, Bool.and_false,
      Bool.false_and]

def sampleSlip : InsightQuery :=
  { sampleRequest with
    groups := sampleRequest.groups ++
      [⟨"screen", .number, [⟨"eq", .text "1"⟩, ⟨"lt", .text "wide"⟩]⟩] }

theorem build_ok_iff_sample :
    (∃ p, sampleRequest.plan 10 = .ok p ∧ (∀ g ∈ p.groups, g.form ≠ .custom []) ∧ Accepts p) ∧
      ∃ p, sampleSlip.plan 10 = .ok p ∧ (∀ g ∈ p.groups, g.form ≠ .custom []) ∧ ¬ Accepts p := by
  constructor
  · obtain ⟨p, s, planned, built⟩ := sampleRequest_builds
    have filled := (InsightQuery.passes planned).filled
    exact ⟨p, planned, filled, (build_ok_iff p filled).1.mp ⟨s, built⟩⟩
  have refused : ((sampleSlip.plan 10).toOption.any fun p =>
      ((source p.insightId).build p).toOption.isNone) = true := by decide +kernel
  cases planned : sampleSlip.plan 10 with
  | error fault =>
    rw [planned] at refused
    cases refused
  | ok p =>
    rw [planned] at refused
    have filled := (InsightQuery.passes planned).filled
    refine ⟨p, rfl, filled, fun accepts => ?_⟩
    obtain ⟨s, built⟩ := (build_ok_iff p filled).1.mpr accepts
    rw [Except.toOption, Option.any_some, built] at refused
    cases refused

end Internal

end Analytics
