import Analytics.Proofs.Query.Renaming

/-!
Alike sources. Two sources are alike under a renaming if they read a request and its renamed form in
the same ways; the statements that they build then have one outline.
-/

namespace Analytics

open Template

variable {ρ : Renaming} {d : Dialect}

/-- Branches of one outline, part by part. -/
structure Branch.Alike (d : Dialect) (b b' : Branch) : Prop where
  label : outline (b.label.template d) = outline (b'.label.template d)
  metrics : b.metrics.map (fun m => outline m.template) = b'.metrics.map fun m => outline m.template
  groups : b.groups.map (fun c => outline (c.template d)) = b'.groups.map fun c => outline (c.template d)
  grouped : b.groups.map GroupColumn.isGrouped = b'.groups.map GroupColumn.isGrouped
  joins : b.joins.map (fun j => outline (j.template d)) = b'.joins.map fun j => outline (j.template d)
  conditions : b.conditions.map (fun c => outline (c.template d))
    = b'.conditions.map fun c => outline (c.template d)

namespace Branch

theorem groupedPositions_alike {cs cs' : List (GroupColumn Column)} (position : Nat)
    (same : cs.map GroupColumn.isGrouped = cs'.map GroupColumn.isGrouped) :
    groupedPositions position cs = groupedPositions position cs' := by
  induction cs generalizing cs' position with
  | nil =>
    obtain rfl := List.map_eq_nil_iff.mp same.symm
    rfl
  | cons c rest ih =>
    cases cs' with
    | nil => cases same
    | cons c' others =>
      obtain ⟨head, tail⟩ := List.cons.inj same
      rw [groupedPositions, groupedPositions, head, ih (position + 1) tail]

theorem outline_alike {b b' : Branch} (alike : b.Alike d b') :
    outline (b.template d) = outline (b'.template d) := by
  have selected : outline (b.selectedTemplate d) = outline (b'.selectedTemplate d) := by
    have metrics (b : Branch) : (b.metrics.map MetricColumn.template).map outline
        = b.metrics.map fun m => outline m.template := List.map_map
    have groups (b : Branch) : (b.groups.map (GroupColumn.template d)).map outline
        = b.groups.map fun c => outline (c.template d) := List.map_map
    simp only [selectedTemplate, outline_join, List.map_cons, List.map_append, outline_append,
      metrics, groups, alike.label, alike.metrics, alike.groups]
  have source : outline (b.sourceTemplate d) = outline (b'.sourceTemplate d) := by
    have joins (js : List Join) : outline (js.flatMap (Join.template d))
        = (js.map fun j => outline (j.template d)).flatten := by
      induction js with
      | nil => rfl
      | cons j rest ih =>
        rw [List.flatMap_cons, outline_append, ih, List.map_cons, List.flatten_cons]
    rw [sourceTemplate, sourceTemplate, outline_append, outline_append, joins, joins, alike.joins]
    rfl
  have conditions : outline (conjunction (b.conditions.map (Condition.template d)))
      = outline (conjunction (b'.conditions.map (Condition.template d))) := by
    apply outline_conjunction
    have mapped (b : Branch) : (b.conditions.map (Condition.template d)).map outline
        = b.conditions.map fun c => outline (c.template d) := List.map_map
    rw [mapped, mapped, alike.conditions]
  have positions : b.positionsTemplate = b'.positionsTemplate := by
    have long : b.metrics.length = b'.metrics.length := by
      simpa only [List.length_map] using congrArg List.length alike.metrics
    rw [positionsTemplate, positionsTemplate, groupPositions, groupPositions, long,
      groupedPositions_alike _ alike.grouped]
  rw [template, template, outline_cons, outline_cons, outline_append, outline_append, outline_cons,
    outline_cons, outline_append, outline_append, outline_cons, outline_cons, outline_append,
    outline_append, outline_cons, outline_cons, selected, source, conditions, positions]

end Branch

/-- Sources that read a request and its renamed form in the same ways. -/
structure Source.Alike (ρ : Renaming) (d : Dialect) (s s' : Source) : Prop where
  encoding : s'.dates.encoding = s.dates.encoding
  dateColumn : s'.dates.dateColumn.isSome = s.dates.dateColumn.isSome
  dateZone : s'.dates.dateZone = s.dates.dateZone
  eventId : s'.eventId.isSome = s.eventId.isSome
  joins : s.joins.map (fun j => outline (j.template d)) = s'.joins.map fun j => outline (j.template d)
  scope : s.scope.map (fun c => outline (c.template d)) = s'.scope.map fun c => outline (c.template d)
  groupColumn : ∀ {index g g' c c'}, g.Renamed ρ g' → s.groupColumn index g = .ok c →
    s'.groupColumn index g' = .ok c' → c.storage = c'.storage
  filter : ∀ {f f' c c'}, f.Renamed ρ f' → s.filter f = .ok c → s'.filter f' = .ok c' →
    outline (c.template d) = outline (c'.template d)

namespace DateSource

variable {s s' : DateSource Column} {w : Window}

theorem chosen_alike (encoding : s'.encoding = s.encoding)
    (dateColumn : s'.dateColumn.isSome = s.dateColumn.isSome) (dateZone : s'.dateZone = s.dateZone) :
    (s'.chosen w).2 = (s.chosen w).2 := by
  have suits : s'.suitsDates w = s.suitsDates w := by rw [suitsDates, suitsDates, dateZone]
  unfold chosen
  rw [suits]
  cases own : s.dateColumn <;> cases other : s'.dateColumn <;> rw [own, other] at dateColumn
  · exact encoding
  · cases dateColumn
  · cases dateColumn
  · dsimp only
    split
    · rfl
    · exact encoding

theorem label_alike (same : (s'.chosen w).2 = (s.chosen w).2) :
    outline ((s.label w).template d) = outline ((s'.label w).template d) := by
  unfold label BucketLabel.ofWindow
  rw [same]
  generalize (s.chosen w).2 = encoding
  cases d <;> cases encoding <;> rfl

theorem range_alike (same : (s'.chosen w).2 = (s.chosen w).2) :
    outline ((s.range w).template d) = outline ((s'.range w).template d) := by
  unfold range
  rw [same]
  generalize (s.chosen w).2 = encoding
  cases encoding <;> cases d <;> rfl

end DateSource

theorem Count.outline_alike {c c' : MetricColumn}
    (distinct : c'.count.distinct.isSome = c.count.distinct.isSome)
    (event : c'.count.event.isSome = c.count.event.isSome) :
    outline c.template = outline c'.template := by
  obtain ⟨⟨counted, own⟩, title⟩ := c
  obtain ⟨⟨counted', own'⟩, title'⟩ := c'
  cases counted <;> cases counted' <;> cases distinct <;> cases own <;> cases own' <;> cases event <;>
    rfl

namespace Source

variable {s s' : Source} {p p' : QueryPlan}

theorem countedOf_alike {m m' : PlannedMetric} {counted counted' : Option Column}
    (eventId : s'.eventId.isSome = s.eventId.isSome) (math : m'.math = m.math)
    (first : s.countedOf m = .ok counted) (second : s'.countedOf m' = .ok counted') :
    counted'.isSome = counted.isSome := by
  unfold Source.countedOf at first second
  rw [math] at second
  cases own : m.math with
  | events =>
    rw [own] at first second
    cases first
    cases second
    exact eventId
  | sessions =>
    rw [own] at first second
    dsimp only at first second
    split at first
    · cases first
      split at second
      · cases second
        rfl
      · cases second
    · cases first

theorem metrics_alike (alike : s.Alike ρ d s') (renamed : p.Renamed ρ p')
    {cs cs' : List MetricColumn} (first : checkAll s.metric p.metrics = .ok cs)
    (second : checkAll s'.metric p'.metrics = .ok cs') :
    cs.map (fun m => outline m.template) = cs'.map fun m => outline m.template := by
  have own := checkAll_ok first
  have other := checkAll_ok second
  have metrics := renamed.metrics
  clear first second
  generalize p.metrics = ms at own metrics
  generalize p'.metrics = ms' at other metrics
  induction metrics generalizing cs cs' with
  | nil =>
    cases own
    cases other
    rfl
  | cons head _ ih =>
    cases own with
    | cons made rest =>
      cases other with
      | cons made' rest' =>
        obtain ⟨event, counted, _⟩ := metric_ok made
        obtain ⟨event', counted', _⟩ := metric_ok made'
        have distinct := countedOf_alike alike.eventId head.math counted counted'
        have every := QueryPlan.countsEvery_renamed head
        rw [List.map_cons, List.map_cons, ih rest rest',
          Count.outline_alike distinct
            (by rw [eventOf_some event, eventOf_some event', every])]

def groupShape (d : Dialect) (c : GroupColumn Column) : List Char × Bool :=
  (outline (c.template d), c.isGrouped)

theorem ofBuckets_alike {type : ValueType} {column column' : StoredColumn Column}
    {pinned : Option Nat} {position : Nat} {bs bs' : List Bucket} {cs cs' : List (GroupColumn Column)}
    (storage : column.storage = column'.storage) (paired : List.Forall₂ Bucket.Alike bs bs')
    (first : GroupColumn.ofBuckets type column pinned position bs = .ok cs)
    (second : GroupColumn.ofBuckets type column' pinned position bs' = .ok cs') :
    cs.map (groupShape d) = cs'.map (groupShape d) := by
  induction paired generalizing position cs cs' with
  | nil =>
    cases first
    cases second
    rfl
  | cons head _ ih =>
    obtain ⟨expr, others, rfl, later, own⟩ := GroupColumn.ofBuckets_cons first
    obtain ⟨expr', others', rfl, later', other⟩ := GroupColumn.ofBuckets_cons second
    rw [List.map_cons, List.map_cons, ih later later']
    congr 1
    rcases own with ⟨here, p, compiled, rfl⟩ | ⟨elsewhere, rfl⟩
    · rcases other with ⟨_, p', compiled', rfl⟩ | ⟨elsewhere, _⟩
      · rw [head.operator] at compiled'
        have predicates := Filter.outline_compile d storage head.value compiled compiled'
        simp only [groupShape, GroupColumn.template, GroupColumn.exprTemplate, outline_append,
          outline_enclose, predicates, GroupColumn.isGrouped]
        rfl
      · exact absurd here elsewhere
    · rcases other with ⟨here, _⟩ | ⟨_, rfl⟩
      · exact absurd here elsewhere
      · rfl

theorem ofPlan_alike {g g' : GroupPlan} {column column' : StoredColumn Column} {pinned : Option Nat}
    {cs cs' : List (GroupColumn Column)} (storage : column.storage = column'.storage)
    (renamed : g.Renamed ρ g') (first : GroupColumn.ofPlan g column pinned = .ok cs)
    (second : GroupColumn.ofPlan g' column' pinned = .ok cs') :
    cs.map (groupShape d) = cs'.map (groupShape d) := by
  have form := renamed.form
  unfold GroupColumn.ofPlan at first second
  rw [renamed.type] at second
  generalize g.form = own at form first
  generalize g'.form = other at form second
  cases form with
  | raw title title' =>
    cases first
    cases second
    rfl
  | custom paired => exact ofBuckets_alike storage paired first second

theorem groups_alike (alike : s.Alike ρ d s') {gs gs' : List GroupPlan} {index : Nat}
    {selection : Selection} {cs cs' : List (GroupColumn Column)}
    (renamed : List.Forall₂ (GroupPlan.Renamed ρ) gs gs')
    (first : s.groupColumns index gs selection = .ok cs)
    (second : s'.groupColumns index gs' selection = .ok cs') :
    cs.map (groupShape d) = cs'.map (groupShape d) := by
  induction renamed generalizing index selection cs cs' with
  | nil =>
    cases first
    cases second
    rfl
  | cons head _ ih =>
    obtain ⟨column, columns, others, read, planned, later, rfl⟩ := groupColumns_cons first
    obtain ⟨column', columns', others', read', planned', later', rfl⟩ := groupColumns_cons second
    rw [List.map_append, List.map_append, ih later later',
      ofPlan_alike (alike.groupColumn head read read') head planned planned']

theorem eventCondition_alike (renamed : p.Renamed ρ p') {c c' : Condition}
    (first : s.eventCondition p = .ok c) (second : s'.eventCondition p' = .ok c') :
    outline (c.template d) = outline (c'.template d) := by
  unfold Source.eventCondition at first second
  rw [QueryPlan.anyEvery_renamed renamed] at second
  split at first
  · rw [if_pos (by assumption)] at second
    cases first
    cases second
    rfl
  · rw [if_neg (by assumption)] at second
    split at first
    · cases first
      split at second
      · rename_i column _ _ column' _
        cases second
        have names : (p.eventNames.map fun name => Scalar.bound (κ := Column) (.text name)).map
              (fun e => outline (e.template d))
            = (p'.eventNames.map fun name => Scalar.bound (.text name)).map
              fun e => outline (e.template d) := by
          rw [QueryPlan.eventNames_renamed renamed, List.map_map, List.map_map, List.map_map]
          rfl
        exact @Filter.outline_list .string ⟨column, .native⟩ ⟨column', .native⟩ d "IN" rfl _ _ names
      · cases second
    · cases first

theorem filters_alike (alike : s.Alike ρ d s') {fs fs' : List PlannedFilter} {cs cs' : List Condition}
    (renamed : List.Forall₂ (PlannedFilter.Renamed ρ) fs fs')
    (first : checkAll s.filter fs = .ok cs) (second : checkAll s'.filter fs' = .ok cs') :
    cs.map (fun c => outline (c.template d)) = cs'.map fun c => outline (c.template d) := by
  have own := checkAll_ok first
  have other := checkAll_ok second
  clear first second
  induction renamed generalizing cs cs' with
  | nil =>
    cases own
    cases other
    rfl
  | cons head _ ih =>
    cases own with
    | cons made rest =>
      cases other with
      | cons made' rest' =>
        rw [List.map_cons, List.map_cons, ih rest rest', alike.filter head made made']

theorem branch_alike (alike : s.Alike ρ d s') (renamed : p.Renamed ρ p') {selection : Selection}
    {b b' : Branch} (first : s.Makes p selection b) (second : s'.Makes p' selection b') :
    b.Alike d b' := by
  have chosen : (s'.dates.chosen p.window).2 = (s.dates.chosen p.window).2 :=
    DateSource.chosen_alike alike.encoding alike.dateColumn alike.dateZone
  have groups := groups_alike alike renamed.groups first.groups second.groups
  obtain ⟨event, filters, known, filtered, confined⟩ := conditions_ok first.conditions
  obtain ⟨event', filters', known', filtered', confined'⟩ := conditions_ok second.conditions
  constructor
  · rw [first.label, second.label, renamed.window]
    exact DateSource.label_alike chosen
  · exact metrics_alike alike renamed first.metrics second.metrics
  · simpa only [List.map_map, Function.comp_def, groupShape] using congrArg (List.map Prod.fst) groups
  · simpa only [List.map_map, Function.comp_def, groupShape] using congrArg (List.map Prod.snd) groups
  · rw [first.joins, second.joins, alike.joins]
  · rw [confined, confined', List.map_append, List.map_append, alike.scope, List.map_cons,
      List.map_cons, List.map_cons, List.map_cons, eventCondition_alike renamed known known',
      filters_alike alike renamed.filters filtered filtered', renamed.window]
    have range := DateSource.range_alike (d := d) chosen
    simp only [Condition.template, range]

theorem build_alike (alike : s.Alike ρ d s') (renamed : p.Renamed ρ p') {t t' : SeriesStatement}
    (first : s.build p = .ok t) (second : s'.build p' = .ok t') :
    outline (t.template d) = outline (t'.template d) := by
  have own := Source.built first
  have other := Source.built second
  rw [QueryPlan.branchSelections_renamed renamed] at other
  have branches : t.branches.map (fun b => outline (b.template d))
      = t'.branches.map fun b => outline (b.template d) :=
    matched_map (matched_both own other fun made made' =>
      Branch.outline_alike (branch_alike alike renamed made made'))
  have mapped (t : SeriesStatement) : (t.branches.map (Branch.template d)).map outline
      = t.branches.map fun b => outline (b.template d) := List.map_map
  rw [SeriesStatement.template, SeriesStatement.template, outline_append, outline_append,
    outline_join, outline_join, mapped, mapped, branches]

end Source

end Analytics
