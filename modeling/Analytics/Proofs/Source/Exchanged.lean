import Analytics.Proofs.Query.Buckets
import Analytics.Proofs.Series.Count
import Analytics.Proofs.Source.Parameters

/-!
Buckets and filters of one source. Where a request has one bucket as its only group, the request with
the filter of the same operator and operand builds a branch of the same table, which counts the rows
that the bucket accepts.
-/

namespace Analytics

def Branch.withCondition (b : Branch) (c : Condition) (joins : List Join)
    (metrics : List MetricColumn) : Branch :=
  { b with metrics := metrics, groups := [], joins := joins, conditions := b.conditions ++ [c] }

def Source.SameEvents (s s' : Source) : Prop :=
  ∃ eventId joins, s' = { s with eventId := eventId, joins := joins }

/-- Whether two columns of a metric in such sources count the same events, by ids or by rows. -/
structure Source.SameMetric (s s' : Source) (c c' : MetricColumn) : Prop where
  title : c'.title = c.title
  event : c'.count.event = c.count.event
  named : ∀ named ∈ c.count.event, s.eventName = some named.1
  distinct : (c.count.distinct = s.eventId ∧ c'.count.distinct = s'.eventId) ∨
    ∃ column, s.session = some column ∧ c.count.distinct = some column ∧
      c'.count.distinct = some column

namespace Source

variable {s s' : Source} {p : QueryPlan} {b : Bucket} {field : String} {type : ValueType}
  {branch : Branch}

theorem eventOf_named {m : PlannedMetric} {event : Option (Column × String)}
    (known : s.eventOf m = .ok event) : ∀ named ∈ event, s.eventName = some named.1 := by
  unfold eventOf at known
  split at known
  · cases known
    exact fun _ member => nomatch member
  · split at known
    · rename_i column found
      cases known
      intro named member
      cases member
      exact found
    · cases known

theorem metric_same (same : s.SameEvents s') {m : PlannedMetric} {c : MetricColumn}
    (made : s.metric m = .ok c) : ∃ c', s'.metric m = .ok c' ∧ s.SameMetric s' c c' := by
  obtain ⟨eventId, joins, rfl⟩ := same
  obtain ⟨event, counted, title⟩ := metric_ok made
  have event' : eventOf { s with eventId := eventId, joins := joins } m = .ok c.count.event := event
  have named := eventOf_named event
  unfold countedOf at counted
  cases math : m.math with
  | events =>
    rw [math] at counted
    refine ⟨⟨⟨eventId, c.count.event⟩, m.title⟩, ?_, title.symm, rfl, named,
      Or.inl ⟨(Except.ok.inj counted).symm, rfl⟩⟩
    unfold metric countedOf
    rw [event', math]
    rfl
  | sessions =>
    rw [math] at counted
    dsimp only at counted
    split at counted
    · rename_i column found
      refine ⟨⟨⟨some column, c.count.event⟩, m.title⟩, ?_, title.symm, rfl, named,
        Or.inr ⟨column, found, (Except.ok.inj counted).symm, rfl⟩⟩
      unfold metric countedOf
      rw [event', math]
      simp only [found]
      rfl
    · cases counted

theorem SameMetric.count_eq {c c' : MetricColumn} (pair : s.SameMetric s' c c')
    (distinct : c'.count.distinct = c.count.distinct) : c'.count = c.count := by
  have event := pair.event
  obtain ⟨⟨counted, own⟩, _⟩ := c
  obtain ⟨⟨counted', own'⟩, _⟩ := c'
  cases event
  cases distinct
  rfl

theorem metrics_read {cs cs' : List MetricColumn} (same : List.Forall₂ (s.SameMetric s') cs cs')
    (fewer : ∀ c ∈ s'.eventId, c ∈ s.eventId) :
    ∀ c ∈ cs'.flatMap (·.count.columns), c ∈ cs.flatMap (·.count.columns) := by
  intro c member
  obtain ⟨m', among, read⟩ := List.mem_flatMap.mp member
  obtain ⟨m, inside, pair⟩ := matched_right same among
  refine List.mem_flatMap.mpr ⟨m, inside, ?_⟩
  unfold Count.columns at read ⊢
  rw [pair.event] at read
  refine (List.mem_append.mp read).elim (fun counted => List.mem_append_left _ ?_)
    (List.mem_append_right _)
  rcases pair.distinct with ⟨own, other⟩ | ⟨column, _, own, other⟩
  · rw [own]
    rw [other] at counted
    exact Option.mem_toList.mpr (fewer c (Option.mem_toList.mp counted))
  · rw [own]
    rw [other] at counted
    exact counted

theorem conditions_filtered (same : s.SameEvents s') {cs : List Condition} {f : PlannedFilter}
    {c : Condition} (made : s.conditions p = .ok cs) (filter : s.filter f = .ok c) :
    s'.conditions (p.withFilter f) = .ok (cs ++ [c]) := by
  obtain ⟨eventId, joins, rfl⟩ := same
  obtain ⟨event, filters, known, filtered, rfl⟩ := conditions_ok made
  have known' : eventCondition { s with eventId := eventId, joins := joins } (p.withFilter f)
      = .ok event := known
  have filtered' : checkAll s.filter (p.withFilter f).filters = .ok (filters ++ [c]) :=
    checkAll_concat filtered filter
  unfold conditions
  rw [known']
  dsimp only
  rw [filtered']
  simp only [Except.map, List.append_assoc, List.cons_append]
  rfl

/-- The one branch of a request with one bucket has the flag of the bucket's predicate. -/
theorem flagged (groups : p.groups = [b.group field type]) (made : s.Makes p [some 0] branch) :
    ∃ column pred, s.groupColumn 0 (b.group field type) = .ok column ∧
      Filter.compile type b.operator b.value column = .ok pred ∧
        branch.groups = [⟨.flag pred, b.title⟩] := by
  have columns := made.groups
  rw [groups] at columns
  obtain ⟨column, flags, others, read, planned, none, split⟩ := groupColumns_cons columns
  cases none
  obtain ⟨expr, rest, rfl, later, chosen⟩ := GroupColumn.ofBuckets_cons planned
  cases later
  rcases chosen with ⟨_, pred, compiled, rfl⟩ | ⟨other, _⟩
  · exact ⟨column, pred, read, compiled, split⟩
  · exact absurd rfl other

theorem branch_filtered (same : s.SameEvents s') {f : PlannedFilter} {selection : Selection}
    {c : Condition} (made : s.Makes p selection branch) (filter : s.filter f = .ok c) :
    ∃ metrics, List.Forall₂ (s.SameMetric s') branch.metrics metrics ∧
      s'.branch (p.withFilter f) [] = .ok (branch.withCondition c s'.joins metrics) := by
  obtain ⟨metrics, counted, paired⟩ := checkAll_follow made.metrics fun _ _ => metric_same same
  have confined := conditions_filtered same made.conditions filter
  refine ⟨metrics, paired, ?_⟩
  have metrics' : checkAll s'.metric (p.withFilter f).metrics = .ok metrics := counted
  unfold Source.branch
  rw [metrics', confined]
  obtain ⟨eventId, joins, rfl⟩ := same
  unfold Branch.withCondition
  rw [made.label, made.relation]
  rfl

end Source

namespace Branch

variable {db : Database} {b : Branch} {pred : Predicate Column} {metrics : List MetricColumn}

def datedViews (db : Database) (b : Branch) (date : String) : List (RowView Column) :=
  (b.views db).filter fun v => b.label.eval v = .text date

/-- Whether a branch without groups counts, at every date, what another one counts among its rows that
satisfy a predicate. -/
structure CountsAlike (db : Database) (pred : Predicate Column) (b b' : Branch) : Prop where
  label : b'.label = b.label
  groups : b'.groups = []
  knows : db.knows b'.relations b'.columns = true
  none : ∀ date, (b.datedViews db date).filter (fun v => (pred.eval v).holds) = [] ↔
    b'.datedViews db date = []
  metrics : ∀ date, List.Forall₂ (fun c c' => c'.title = c.title ∧
    c'.count.eval (b'.datedViews db date)
      = c.count.eval ((b.datedViews db date).filter fun v => (pred.eval v).holds)) b.metrics b'.metrics

theorem withCondition_relations (pred : Predicate Column) (metrics : List MetricColumn)
    (none : b.joins = []) : (b.withCondition (.plain pred) [] metrics).relations = b.relations := by
  unfold relations withCondition
  rw [none, List.filterMap_append]
  simp only [List.filterMap_cons, List.filterMap_nil, List.append_nil]

theorem counts_plain {title : Ident} (none : b.joins = []) (groups : b.groups = [⟨.flag pred, title⟩])
    (same : List.Forall₂ (fun c c' => c'.title = c.title ∧ c'.count = c.count) b.metrics metrics)
    (read : ∀ c ∈ metrics.flatMap (·.count.columns), c ∈ b.metrics.flatMap (·.count.columns))
    (knows : db.knows b.relations b.columns = true) :
    b.CountsAlike db pred (b.withCondition (.plain pred) [] metrics) := by
  have events : (b.withCondition (.plain pred) [] metrics).events db
      = (b.events db).filter ((fun v => (pred.eval v).holds) ∘ RowScope.view) := by
    unfold Branch.events withCondition
    rw [List.filter_filter]
    refine List.filter_congr fun s _ => ?_
    rw [List.all_append, List.all_cons, List.all_nil, Bool.and_true]
    exact Bool.and_comm _ _
  have kept (date : String) : (b.withCondition (.plain pred) [] metrics).datedViews db date
      = (b.datedViews db date).filter fun v => (pred.eval v).holds := by
    unfold datedViews views
    rw [scopes_events rfl, events, ← List.filter_map, scopes_events none, List.filter_filter,
      List.filter_filter]
    exact List.filter_congr fun v _ => Bool.and_comm _ _
  constructor
  · rfl
  · rfl
  · obtain ⟨tables, columns⟩ := Database.knows_iff.mp knows
    rw [withCondition_relations pred metrics none]
    refine Database.knows_iff.mpr ⟨tables, fun c member => columns c (mem_columns.mpr ?_)⟩
    rcases mem_columns.mp member with own | ⟨g, inside, _⟩ | ⟨join, inside, _⟩ | ⟨d, inside, here⟩
    · exact Or.inl ((List.mem_cons.mp own).elim (fun first => first ▸ List.mem_cons_self)
        fun later => List.mem_cons_of_mem _ (read c later))
    · cases inside
    · cases inside
    · rcases List.mem_append.mp inside with early | late
      · exact Or.inr (Or.inr (Or.inr ⟨d, early, here⟩))
      · cases List.mem_singleton.mp late
        exact Or.inr (Or.inl ⟨⟨.flag pred, title⟩, groups ▸ List.mem_cons_self, here⟩)
  · intro date
    rw [kept]
  · intro date
    rw [kept]
    exact same.imp fun c c' both => ⟨both.1, by rw [both.2]⟩

end Branch

namespace LongTable

variable {t : LongTable} {db : Database} {p : QueryPlan} {b : Bucket} {field : String}
  {type : ValueType} {branch : Branch} {pred : Predicate Column} {metrics : List MetricColumn}

def parameterJoin (t : LongTable) (field : String) : Join :=
  ⟨t.groupRelation 0, t.link (t.groupRelation 0) field⟩

def parameterCondition (t : LongTable) (field : String) (pred : Predicate Column) : Condition :=
  .linked t.filterRelation (t.link t.filterRelation field)
    (pred.map ((t.groupRelation 0).rename t.filterRelation))

theorem exchanges (groups : p.groups = [b.group field type]) (parameter : t.namesEvents field = false)
    (made : (t.source p.groups).Makes p [some 0] branch)
    (compiled : Filter.compile type b.operator b.value (t.storedValue (t.groupRelation 0) type)
      = .ok pred) (metrics : List MetricColumn) :
    branch.Exchanges (branch.withCondition (t.parameterCondition field pred) [] metrics)
      (t.parameterJoin field) t.filterRelation pred where
  relation := rfl
  joins := by
    rw [made.joins, groups]
    change t.joinsFrom 0 [b.group field type] = _
    unfold joinsFrom
    rw [if_neg (by rw [Bucket.group, parameter]; decide)]
    rfl
  joins' := rfl
  conditions := by
    rw [parameterJoin, ← link_rename (t.event_apart 0)]
    rfl
  table := rfl
  other := by
    rw [made.relation]
    exact t.event_apart 0
  avoids := conditions_avoid made.conditions 0
  apart := by
    intro c member
    rcases List.mem_append.mp member with linking | satisfied
    · exact t.link_apart 0 field c linking
    · rw [Filter.compile_columns compiled c satisfied, storedValue_relation]
      exact (t.filter_apart 0).symm

section

variable {vs : List (RowView Column)}

theorem datedViews_sublist {b : Branch} (relation : b.relation = t.relation) (none : b.joins = [])
    (date : String) :
    (b.datedViews db date).Sublist ((t.relation.extend db []).map RowScope.view) := by
  unfold Branch.datedViews Branch.views
  rw [Branch.scopes_events none, Branch.events, relation]
  exact List.filter_sublist.trans (List.filter_sublist.map _)

theorem ids_told (apart : t.idsApart db = true)
    (events : vs.Sublist ((t.relation.extend db []).map RowScope.view))
    (some : ∀ v ∈ vs, (v.cell (t.ofEvent t.events.id)).isNull = false) :
    (vs.map fun v => v.cell (t.ofEvent t.events.id)).Pairwise fun c d => Cell.same c d = false := by
  have ids : (vs.map fun v => v.cell (t.ofEvent t.events.id)).filter (fun c => !c.isNull)
      = vs.map fun v => v.cell (t.ofEvent t.events.id) := by
    refine List.filter_eq_self.mpr fun c member => ?_
    obtain ⟨v, among, rfl⟩ := List.mem_map.mp member
    rw [some v among]
    rfl
  have kept := (events.map fun v => v.cell (t.ofEvent t.events.id)).filter fun c => !c.isNull
  rw [ids, List.map_map] at kept
  exact (of_decide_eq_true apart).sublist kept

end

theorem source_eventId (t : LongTable) (gs : List GroupPlan) :
    ∀ c ∈ (t.source gs).eventId, c = t.ofEvent t.events.id := by
  intro c member
  change c ∈ (if _ then _ else _) at member
  split at member
  · exact (Option.mem_some_iff.mp member).symm
  · cases member

theorem metric_columns {gs gs' : List GroupPlan} {c c' : MetricColumn}
    (pair : (t.source gs).SameMetric (t.source gs') c c') :
    ∀ column ∈ c.count.columns, column.relation = t.relation.name := by
  intro column member
  rcases List.mem_append.mp member with counted | event
  · have counted := Option.mem_toList.mp counted
    rcases pair.distinct with ⟨own, _⟩ | ⟨session, named, own, _⟩
    · rw [own] at counted
      rw [t.source_eventId gs column counted]
      rfl
    · rw [own] at counted
      cases Option.mem_some_iff.mp counted
      obtain ⟨name, _, rfl⟩ := Option.map_eq_some_iff.mp named
      rfl
  · obtain ⟨named, known, rfl⟩ := Option.map_eq_some_iff.mp (Option.mem_toList.mp event)
    have own : t.eventName = named.1 := Option.some.inj (pair.named named known)
    rw [← own]
    rfl

theorem read_columns {gs gs' : List GroupPlan} (made : (t.source gs).Makes p [some 0] branch)
    (same : List.Forall₂ ((t.source gs).SameMetric (t.source gs')) branch.metrics metrics) :
    ∀ c ∈ branch.label.column :: branch.metrics.flatMap (·.count.columns),
      c.relation = branch.relation.name := by
  rw [made.relation]
  refine List.forall_mem_cons.mpr ⟨?_, fun c member => ?_⟩
  · rw [made.label]
    exact t.dates_relation gs p.window
  · obtain ⟨m, among, inside⟩ := List.mem_flatMap.mp member
    obtain ⟨_, _, pair⟩ := matched_right same.flip among
    exact metric_columns pair c inside

theorem filtered_ids {b : Branch} (none : b.joins = [])
    (inside : t.parameterCondition field pred ∈ b.conditions) (date : String) :
    ∀ v ∈ b.datedViews db date, (v.cell (t.ofEvent t.events.id)).isNull = false := by
  intro v member
  obtain ⟨s, scope, rfl⟩ := List.mem_map.mp (List.mem_filter.mp member).1
  rw [Branch.scopes_events none] at scope
  exact linked_id (List.all_eq_true.mp (List.mem_filter.mp scope).2 _ inside)

/-- A bucket on a parameter counts the events that the filter keeps, where events have different ids
and, if the bucket tests for null, every event has the parameter. -/
theorem counts_linked (groups : p.groups = [b.group field type])
    (parameter : t.namesEvents field = false) (made : (t.source p.groups).Makes p [some 0] branch)
    (compiled : Filter.compile type b.operator b.value (t.storedValue (t.groupRelation 0) type)
      = .ok pred) (flags : branch.groups = [⟨.flag pred, b.title⟩])
    (same : List.Forall₂ ((t.source p.groups).SameMetric (t.source [])) branch.metrics metrics)
    (knows : db.knows branch.relations branch.columns = true) (apart : t.idsApart db = true)
    (listed : Filter.itemsOf b.value ≠ .ok [])
    (missing : b.operator = .isNull → ∀ s ∈ branch.events db, t.hasParameter db field s = true) :
    branch.CountsAlike db pred
      (branch.withCondition (t.parameterCondition field pred) [] metrics) := by
  have exchanges := exchanges groups parameter made compiled metrics
  have columns := read_columns made same
  obtain ⟨table, found⟩ : ∃ table,
      db.table? (t.parameterJoin field).relation.table.text = some table := by
    refine Option.isSome_iff_exists.mp ((Database.knows_iff.mp knows).1 _ ?_)
    refine Branch.mem_relations.mpr (Or.inr (Or.inl ⟨t.parameterJoin field, ?_, rfl⟩))
    rw [exchanges.joins]
    exact List.mem_cons_self
  have repeats (date : String) : Repeats branch.relation.name
      ((branch.withCondition (t.parameterCondition field pred) [] metrics).datedViews db date)
      ((branch.datedViews db date).filter fun v => (pred.eval v).holds) := by
    have rows := Branch.views_exchanged (fun v => branch.label.eval v = .text date) exchanges
      found (fun s member => null_linked compiled listed fun test => missing test s member) ?_
    · unfold Branch.datedViews
      rw [List.filter_filter]
      simp only [Bool.and_comm]
      exact rows
    · intro v u same
      have cell := (same branch.label.column (columns _ List.mem_cons_self)).1
      simp only [BucketLabel.eval, cell]
      rfl
  constructor
  · rfl
  · rfl
  · exact Branch.knows_exchanged exchanges rfl rfl ⟨b.title, flags ▸ List.mem_cons_self⟩
      (Source.metrics_read same fun c member => nomatch member) columns knows
  · exact fun date => (repeats date).nil_iff
  · intro date
    have some : ∀ v ∈ (branch.withCondition (t.parameterCondition field pred) [] metrics).datedViews
        db date, (v.cell (t.ofEvent t.events.id)).isNull = false :=
      filtered_ids rfl (List.mem_append_right _ List.mem_cons_self) date
    have told := ids_told apart (datedViews_sublist (b := branch.withCondition
      (t.parameterCondition field pred) [] metrics) made.relation rfl date) some
    refine same.imp fun c c' pair => ⟨pair.title, ?_⟩
    have under : ∀ column ∈ c.count.columns, column.relation = branch.relation.name := by
      rw [made.relation]
      exact metric_columns pair
    have event : ∀ named ∈ c.count.event, named.1.relation = branch.relation.name :=
      fun named known => under named.1 (List.mem_append_right _
        (Option.mem_toList.mpr (Option.map_eq_some_iff.mpr ⟨named, known, rfl⟩)))
    -- The bucket counts events by their ids, which its join repeats, and the filter counts rows.
    rcases pair.distinct with ⟨own, other⟩ | ⟨session, named, own, other⟩
    · have id : (t.source p.groups).eventId = Option.some (t.ofEvent t.events.id) := by
        rw [groups]
        refine if_pos ?_
        rw [Bucket.group, List.any_cons, parameter]
        rfl
      refine ((repeats date).eval_told (own.trans id) ?_ event other pair.event some told).symm
      rw [made.relation]
      rfl
    · rw [pair.count_eq (other.trans own.symm)]
      refine ((repeats date).eval_distinct own (under session ?_) event).symm
      rw [Count.columns, own]
      exact List.mem_cons_self

end LongTable

theorem Source.counts_own {s : Source} {p : QueryPlan} {b : Bucket} {field : String}
    {type : ValueType} {branch : Branch} {pred : Predicate Column} {title : Ident} {db : Database}
    (none : s.joins = []) (made : s.Makes p [some 0] branch)
    (flags : branch.groups = [⟨.flag pred, title⟩])
    (filter : s.filter (b.filter field type) = .ok (.plain pred))
    (knows : db.knows branch.relations branch.columns = true) :
    ∃ b', s.branch (p.withFilter (b.filter field type)) [] = .ok b' ∧
      branch.CountsAlike db pred b' := by
  obtain ⟨metrics, paired, filtered⟩ := branch_filtered ⟨s.eventId, s.joins, rfl⟩ made filter
  refine ⟨_, filtered, ?_⟩
  rw [none]
  refine Branch.counts_plain (made.joins.trans none) flags (paired.imp fun c c' pair => ?_)
    (metrics_read paired fun c member => member) knows
  refine ⟨pair.title, pair.count_eq ?_⟩
  rcases pair.distinct with ⟨own, other⟩ | ⟨_, _, own, other⟩
  · exact other.trans own.symm
  · exact other.trans own.symm

namespace LongTable

variable {t : LongTable} {p : QueryPlan} {b : Bucket} {field : String} {type : ValueType}
  {branch : Branch} {db : Database} {column : StoredColumn Column} {pred : Predicate Column}

theorem counts_names (groups : p.groups = [b.group field type]) (names : t.namesEvents field = true)
    (made : (t.source p.groups).Makes p [some 0] branch)
    (read : t.groupColumn 0 (b.group field type) = column)
    (compiled : Filter.compile type b.operator b.value column = .ok pred)
    (flags : branch.groups = [⟨.flag pred, b.title⟩])
    (knows : db.knows branch.relations branch.columns = true) :
    ∃ b', (t.source []).branch (p.withFilter (b.filter field type)) [] = .ok b' ∧
      branch.CountsAlike db pred b' := by
  have same : t.source p.groups = t.source [] := by
    rw [groups]
    unfold LongTable.source LongTable.joinsFrom
    simp only [Bucket.group, names, List.any_cons, List.any_nil, LongTable.joinsFrom, if_true]
    rfl
  have own : (t.source []).Makes p [some 0] branch := same ▸ made
  refine Source.counts_own rfl own flags ?_ knows
  unfold LongTable.groupColumn at read
  rw [if_pos (by exact names)] at read
  change t.filter (b.filter field type) = _
  unfold LongTable.filter
  rw [if_pos (by exact names), read]
  exact congrArg (Except.map Condition.plain) compiled

theorem counts_parameter (groups : p.groups = [b.group field type])
    (parameter : t.namesEvents field = false) (made : (t.source p.groups).Makes p [some 0] branch)
    (read : t.groupColumn 0 (b.group field type) = column)
    (compiled : Filter.compile type b.operator b.value column = .ok pred)
    (flags : branch.groups = [⟨.flag pred, b.title⟩])
    (knows : db.knows branch.relations branch.columns = true) (apart : t.idsApart db = true)
    (listed : Filter.itemsOf b.value ≠ .ok [])
    (missing : b.operator = .isNull → ∀ s ∈ branch.events db, t.hasParameter db field s = true) :
    ∃ b', (t.source []).branch (p.withFilter (b.filter field type)) [] = .ok b' ∧
      branch.CountsAlike db pred b' := by
  unfold LongTable.groupColumn at read
  rw [if_neg (by exact Bool.eq_false_iff.mp parameter)] at read
  subst read
  have moved : Filter.compile type b.operator b.value (t.storedValue t.filterRelation type)
      = .ok (pred.map ((t.groupRelation 0).rename t.filterRelation)) := by
    rw [t.storedValue_rename (t.groupRelation 0) t.filterRelation, Filter.compile_map]
    exact congrArg (Except.map _) compiled
  have filter : (t.source p.groups).filter (b.filter field type)
      = .ok (t.parameterCondition field pred) := by
    change t.filter (b.filter field type) = _
    unfold LongTable.filter
    rw [if_neg (by exact Bool.eq_false_iff.mp parameter)]
    exact congrArg (Except.map _) moved
  have same : (t.source p.groups).SameEvents (t.source []) := ⟨(t.source []).eventId, [], rfl⟩
  obtain ⟨metrics, paired, filtered⟩ := Source.branch_filtered same made filter
  exact ⟨_, filtered, t.counts_linked groups parameter made compiled flags paired knows apart listed
    missing⟩

end LongTable

def GroupPlan.testsNull (g : GroupPlan) : Bool :=
  match g.form with
  | .raw _ => false
  | .custom buckets => buckets.any fun b => b.operator = .isNull

namespace Resolved

/-- Whether events of a long table have different ids and, where a group tests a parameter for null,
all events that a branch selects have the parameter. -/
def tellsParameters (r : Resolved) (db : Database) (g : GroupPlan) (b : Branch) : Bool :=
  match r with
  | .internal | .wide _ _ => true
  | .long t _ => t.namesEvents g.field ||
    (t.idsApart db && (!g.testsNull || (b.events db).all (t.hasParameter db g.field)))

theorem counts_alike {r : Resolved} {p : QueryPlan} {b : Bucket} {field : String} {type : ValueType}
    {branch : Branch} {db : Database} (groups : p.groups = [b.group field type])
    (made : (r.source p).Makes p [some 0] branch)
    (knows : db.knows branch.relations branch.columns = true)
    (listed : Filter.itemsOf b.value ≠ .ok [])
    (tells : r.tellsParameters db (b.group field type) branch = true) :
    ∃ column pred b', (r.source p).groupColumn 0 (b.group field type) = .ok column ∧
      Filter.compile type b.operator b.value column = .ok pred ∧
      (r.source (p.withFilter (b.filter field type))).branch
        (p.withFilter (b.filter field type)) [] = .ok b' ∧ branch.CountsAlike db pred b' := by
  obtain ⟨column, pred, read, compiled, flags⟩ := Source.flagged groups made
  refine ⟨column, pred, ?_⟩
  suffices ∃ b', (r.source (p.withFilter (b.filter field type))).branch
      (p.withFilter (b.filter field type)) [] = .ok b' ∧ branch.CountsAlike db pred b' by
    obtain ⟨b', built, alike⟩ := this
    exact ⟨b', read, compiled, built, alike⟩
  cases r with
  | internal =>
    have column_read : Internal.dimension (b.filter field type).field = .ok column := read
    refine Source.counts_own rfl made flags ?_ knows
    change Internal.filter (b.filter field type) = _
    unfold Internal.filter
    rw [column_read]
    exact congrArg (Except.map Condition.plain) compiled
  | wide table store =>
    have column_read : table.fieldColumn (b.filter field type).field = .ok column := read
    refine Source.counts_own rfl made flags ?_ knows
    change table.filter (b.filter field type) = _
    unfold WideTable.filter
    rw [column_read]
    exact congrArg (Except.map Condition.plain) compiled
  | long t store =>
    have column_read : t.groupColumn 0 (b.group field type) = column := Except.ok.inj read
    -- The name of an event is in its own row, all else in a row that is joined to it.
    cases names : t.namesEvents field with
    | true => exact t.counts_names groups names made column_read compiled flags knows
    | false =>
      change (t.namesEvents field || (t.idsApart db && (!(b.group field type).testsNull ||
        (branch.events db).all (t.hasParameter db field)))) = true at tells
      rw [names, Bool.false_or, Bool.and_eq_true] at tells
      refine t.counts_parameter groups names made column_read compiled flags knows tells.1 listed ?_
      intro test s member
      have null : (b.group field type).testsNull = true := by
        simp only [GroupPlan.testsNull, Bucket.group, List.any_cons, test, decide_true, Bool.true_or]
      have present := tells.2
      rw [null, Bool.not_true, Bool.false_or] at present
      exact List.all_eq_true.mp present s member

end Resolved

end Analytics
