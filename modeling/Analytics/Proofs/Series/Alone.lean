import Analytics.Proofs.Number.Sums
import Analytics.Proofs.Series.Values

/-!
Metrics beside each other. A metric has the same values in a request for several metrics as in the
request for it alone: groups of rows that only other metrics count add zeros to its sums, and every
other group counts the same rows. Main statement: so it is wherever the store puts no rows with
different group values into one group.
-/

namespace Analytics

/-- A request with one of its metrics alone. -/
def InsightQuery.alone (q : InsightQuery) (r : RequestedMetric) : InsightQuery :=
  { q with metrics := [r] }

/-- A plan with one of the metrics of another plan, and the same otherwise. -/
structure QueryPlan.Singles (p : QueryPlan) (m : PlannedMetric) (p' : QueryPlan)
    (m' : PlannedMetric) : Prop where
  id : p'.insightId = p.insightId
  type : p'.insightType = p.insightType
  window : p'.window = p.window
  filters : p'.filters = p.filters
  groups : p'.groups = p.groups
  metrics : p'.metrics = [m']
  member : m ∈ p.metrics
  name : m'.name = m.name
  math : m'.math = m.math

theorem InsightQuery.alone_singles {q : InsightQuery} {r : RequestedMetric} {limit limit' : Nat}
    {p p' : QueryPlan} (passes : q.Passes limit p) (single : (q.alone r).Passes limit' p')
    (asked : r ∈ q.metrics) : ∃ m m', p.Singles m p' m' ∧ m.name = r.name ∧ m.math = r.math := by
  obtain ⟨m, member, planned⟩ :=
    matched_right (RequestedMetric.planAll_ok passes.metrics).flip asked
  obtain ⟨name, math, _⟩ := RequestedMetric.plan_ok planned
  have metrics := RequestedMetric.planAll_ok single.metrics
  obtain ⟨m', rest, planned', none, one⟩ := List.forall₂_cons_left_iff.mp metrics
  obtain ⟨name', math', _⟩ := RequestedMetric.plan_ok planned'
  cases none
  refine ⟨m, m', ⟨single.id.trans passes.id.symm, single.type.trans passes.type.symm, ?_, ?_, ?_,
    one, member, name'.trans name.symm, math'.trans math.symm⟩, name, math⟩
  · exact Except.ok.inj (single.window.symm.trans passes.window)
  · exact Except.ok.inj (single.filters.symm.trans passes.filters)
  · exact Except.ok.inj (single.groups.symm.trans passes.groups)

namespace Source

variable {s : Source} {p p' : QueryPlan} {m m' : PlannedMetric} {selection : Selection}
  {b b' : Branch}

theorem metric_singles (single : p.Singles m p' m') {c c' : MetricColumn}
    (made : s.metric m = .ok c) (made' : s.metric m' = .ok c') : c'.count = c.count := by
  obtain ⟨event, distinct, _⟩ := metric_ok made
  obtain ⟨event', distinct', _⟩ := metric_ok made'
  have events : s.eventOf m' = s.eventOf m := by
    unfold eventOf PlannedMetric.countsEvery
    rw [single.name]
  have counted : s.countedOf m' = s.countedOf m := by
    unfold countedOf
    rw [single.name, single.math]
  rw [events, event] at event'
  rw [counted, distinct] at distinct'
  obtain ⟨⟨counted', event'⟩, _⟩ := c
  obtain ⟨⟨counted'', event''⟩, _⟩ := c'
  cases event'
  cases distinct'
  rfl

theorem counts_singles (single : p.Singles m p' m') (v : RowView Column) :
    s.counts m' v = s.counts m v := by
  unfold counts PlannedMetric.countsEvery
  rw [single.name]

theorem eventCondition_single {c : Condition} (metrics : p.metrics = [m])
    (known : s.eventCondition p = .ok c) (v : RowView Column) : c.holdsOn v = s.counts m v := by
  have every : p.countsEvery = m.countsEvery := by
    unfold QueryPlan.countsEvery
    rw [metrics, List.any_cons, List.any_nil, Bool.or_false]
  unfold eventCondition at known
  unfold counts
  rw [every] at known
  split at known
  · rename_i all
    cases known
    rw [all]
    rfl
  · rename_i one
    have names : p.eventNames = [m.name] := by
      unfold QueryPlan.eventNames
      rw [metrics, List.filter_cons_of_pos (by rw [Bool.eq_false_iff.mpr one]; rfl)]
      rfl
    rw [Bool.eq_false_iff.mpr one, Bool.false_or]
    cases named : s.eventName with
    | none =>
      rw [named] at known
      cases known
    | some column =>
      rw [named] at known
      cases known
      simp only [Condition.holdsOn, Predicate.eval, Predicate.evalWithin, Truth.any_holds, names,
        List.map_cons, List.map_nil, List.any_cons, List.any_nil, Bool.or_false]
      rfl

theorem scopes_alone (single : p.Singles m p' m') (made : s.Makes p selection b)
    (made' : s.Makes p' selection b') (db : Database) :
    b'.scopes db = (b.scopes db).filter fun t => s.counts m t.view := by
  obtain ⟨event, filters, known, filtered, confined⟩ := conditions_ok made.conditions
  obtain ⟨event', filters', known', filtered', confined'⟩ := conditions_ok made'.conditions
  rw [single.filters, filtered] at filtered'
  cases filtered'
  unfold Branch.scopes
  dsimp only
  rw [made.joins, made.relation, made'.joins, made'.relation, List.filter_filter, confined,
    confined', single.window]
  apply List.filter_congr
  intro t _
  have own := Condition.holds_plain db t (eventCondition_plain known)
  have other := Condition.holds_plain db t (eventCondition_plain known')
  rw [eventCondition_single single.metrics known', counts_singles single] at other
  simp only [List.all_append, List.all_cons, own, other]
  cases counted : s.counts m t.view with
  | false => simp only [Bool.false_and, Bool.and_false]
  | true => rw [eventCondition_counts known single.member counted, Bool.true_and, Bool.true_and]

theorem groupKey_alone (single : p.Singles m p' m') (made : s.Makes p selection b)
    (made' : s.Makes p' selection b') (v : RowView Column) : b'.groupKey v = b.groupKey v := by
  have label : b'.label = b.label := by rw [made.label, made'.label, single.window]
  have groups : b'.groups = b.groups := by
    have columns := made'.groups
    rw [single.groups, made.groups] at columns
    exact (Except.ok.inj columns).symm
  unfold Branch.groupKey
  rw [label, groups]

end Source

namespace Count

variable {c : Count Column} {views : List (RowView Column)}

theorem eval_included (c : Count Column) (views : List (RowView Column)) :
    c.eval (views.filter c.includes) = c.eval views := by
  unfold eval
  simp only [List.filter_filter, Bool.and_self]

theorem eval_none (none : views.filter c.includes = []) : c.eval views = 0 := by
  rw [← eval_included, none]
  unfold eval
  cases c.distinct <;> rfl

end Count

namespace GroupPlan

variable {row row' : ResultRow}

theorem flagged_congr {buckets : List Bucket} {position : Nat}
    (same : ∀ b ∈ buckets, ResultRow.cell row b.title.text = ResultRow.cell row' b.title.text) :
    flagged row position buckets = flagged row' position buckets := by
  induction buckets generalizing position with
  | nil => rfl
  | cons b rest ih =>
    obtain ⟨own, later⟩ := List.forall_mem_cons.mp same
    unfold flagged
    rw [own, ih later]

theorem valuesOf_congr {g : GroupPlan}
    (same : ∀ title ∈ g.titles, ResultRow.cell row title.text = ResultRow.cell row' title.text) :
    g.valuesOf row = g.valuesOf row' := by
  unfold titles at same
  unfold valuesOf
  cases form : g.form with
  | raw title =>
    rw [form] at same
    dsimp only
    rw [same title List.mem_cons_self]
  | custom buckets =>
    rw [form] at same
    exact flagged_congr fun b member => same b.title (List.mem_map.mpr ⟨b, member, rfl⟩)

end GroupPlan

namespace QueryPlan

variable {p p' : QueryPlan} {row row' : ResultRow} {date : String} {key : List GroupValue}

def isPlaced (p : QueryPlan) (date : String) (key : List GroupValue) (row : ResultRow) : Bool :=
  (p.placed? date key row).isSome

theorem placed_map (p : QueryPlan) (date : String) (key : List GroupValue) (row : ResultRow)
    {α : Type} (f : ResultRow → α) : (p.placed? date key row).map (fun r => f r.row)
      = if p.isPlaced date key row then some (f row) else none := by
  unfold isPlaced
  cases placed : p.placed? date key row with
  | none => rfl
  | some r =>
    obtain ⟨_, _, rfl⟩ := Option.map_eq_some_iff.mp (placed_iff.mp placed).1
    rfl

theorem isPlaced_congr (groups : p'.groups = p.groups)
    (dated : ResultRow.cell row dateColumnName = ResultRow.cell row' dateColumnName)
    (same : ∀ title ∈ p.groups.flatMap (·.titles),
      ResultRow.cell row title.text = ResultRow.cell row' title.text) :
    p.isPlaced date key row = p'.isPlaced date key row' := by
  have values : p.groups.map (GroupPlan.valuesOf row) = p.groups.map (GroupPlan.valuesOf row') :=
    List.map_congr_left fun g member => GroupPlan.valuesOf_congr fun title inside =>
      same title (List.mem_flatMap.mpr ⟨g, member, inside⟩)
  unfold isPlaced placed? datedRow?
  rw [groups, dated, values]
  cases ResultValue.label? (ResultRow.cell row' dateColumnName) with
  | none => rfl
  | some own =>
    simp only [Option.map_some, Option.filter_some]
    split <;> rfl

end QueryPlan

namespace Source

variable {s : Source} {p p' : QueryPlan} {m m' : PlannedMetric} {selection : Selection}
  {b b' : Branch} {date : String} {key : List GroupValue} {first first' : RowView Column}
  {views views' : List (RowView Column)}

theorem isPlaced_key (single : p.Singles m p' m') (made : s.Makes p selection b)
    (made' : s.Makes p' selection b') (told : p.IsTold) (told' : p'.IsTold) (date : String)
    (key : List GroupValue) (views views' : List (RowView Column))
    (same : b.groupKey first = b.groupKey first') :
    p.isPlaced date key (b.resultRow first views)
      = p'.isPlaced date key (b'.resultRow first' views') := by
  have label : b'.label = b.label := by rw [made.label, made'.label, single.window]
  have groups : b'.groups = b.groups := by
    have columns := made'.groups
    rw [single.groups, made.groups] at columns
    exact (Except.ok.inj columns).symm
  have labels := (List.cons.inj same).1
  refine QueryPlan.isPlaced_congr single.groups ?_ ?_
  · rw [b.resultRow_date first views made told, b'.resultRow_date first' views' made' told', label,
      labels]
  · intro title member
    rw [← titles_groupColumns made.groups] at member
    obtain ⟨c, among, rfl⟩ := List.mem_map.mp member
    rw [b.resultRow_shows first views made told c among,
      b'.resultRow_shows first' views' made' told' c (groups ▸ among)]
    rw [Branch.groups_of_key same c among]

def itemOf (p : QueryPlan) (b : Branch) (count : Count Column) (date : String)
    (key : List GroupValue) (views : List (RowView Column)) : Option Binary64 :=
  views.head?.bind fun first =>
    if p.isPlaced date key (b.resultRow first views) then some (.ofInt (count.eval views)) else none

theorem items_keys (date : String) (key : List GroupValue) (made : s.Makes p selection b)
    (once : p.columnNames.Nodup)
    {c : MetricColumn} (member : c ∈ b.metrics) (title : c.title = m.title)
    (told : KeysTold (views.map fun v => (b.groupKey v, v))) :
    ∃ ks : List (List Cell), ks.Pairwise (fun k l => keyLe k l = true) ∧ ks.Nodup ∧
      (∀ k, k ∈ ks ↔ ∃ v ∈ views, b.groupKey v = k) ∧
      items p m b views date key = ks.filterMap fun k =>
        itemOf p b c.count date key (views.filter fun v => b.groupKey v = k) := by
  obtain ⟨ks, sorted, distinct, keys, answered⟩ := answer_keys b told
  refine ⟨ks, sorted, distinct, keys, ?_⟩
  unfold items
  rw [answered, List.filterMap_filterMap, List.map_filterMap]
  refine List.filterMap_congr fun k _ => ?_
  unfold itemOf
  cases (views.filter fun v => b.groupKey v = k).head? with
  | none => rfl
  | some first =>
    rw [Option.map_some, Option.bind_some, Option.bind_some, p.placed_map date key _
      fun row => ResultValue.number (ResultRow.cell row m.title.text), ← title,
      Branch.resultRow_metric first _ (made.columnNames ▸ once) member]
    rfl

theorem itemOf_alone (single : p.Singles m p' m') (made : s.Makes p selection b)
    (made' : s.Makes p' selection b') (told : p.IsTold) (told' : p'.IsTold) {count : Count Column}
    {k : List Cell} (keyed : ∀ v ∈ views, b.groupKey v = k)
    (some : views.filter count.includes ≠ []) :
    itemOf p' b' count date key (views.filter count.includes)
      = itemOf p b count date key views := by
  obtain ⟨first', rest', counted⟩ := List.exists_cons_of_ne_nil some
  have inside : first' ∈ views :=
    (List.mem_filter.mp (counted ▸ List.mem_cons_self : first' ∈ views.filter _)).1
  obtain ⟨first, rest, all⟩ := List.exists_cons_of_ne_nil (List.ne_nil_of_mem inside)
  have own : first ∈ views := all ▸ List.mem_cons_self
  have same : b.groupKey first = b.groupKey first' :=
    (keyed first own).trans (keyed first' inside).symm
  have placed := isPlaced_key single made made' told told' date key views
    (views.filter count.includes) same
  have head : views.head? = Option.some first := by rw [all, List.head?_cons]
  have head' : (views.filter count.includes).head? = Option.some first' := by
    rw [counted, List.head?_cons]
  unfold itemOf
  rw [head, head', Option.bind_some, Option.bind_some, placed, Count.eval_included]

theorem itemOf_none {count : Count Column} (none : views.filter count.includes = []) :
    itemOf p b count date key views = Option.none ∨
      itemOf p b count date key views = some .zero := by
  unfold itemOf
  rw [Count.eval_none none]
  cases views.head? with
  | none => exact Or.inl rfl
  | some first =>
    rw [Option.bind_some]
    split
    · exact Or.inr rfl
    · exact Or.inl rfl

theorem itemOf_sum {count : Count Column} {x : Binary64}
    (item : itemOf p b count date key views = some x) : Binary64.IsSum x := by
  obtain ⟨first, _, shown⟩ := Option.bind_eq_some_iff.mp item
  split at shown
  · cases shown
    exact Binary64.isSum_ofInt _
  · cases shown

theorem sorted_sublist {ks ks' : List (List Cell)}
    (apart : ∀ k ∈ ks, ∀ l ∈ ks, sameKey k l = true → k = l)
    (sorted : ks.Pairwise fun k l => keyLe k l = true) (once : ks.Nodup)
    (sorted' : ks'.Pairwise fun k l => keyLe k l = true) (once' : ks'.Nodup)
    (inside : ∀ k ∈ ks', k ∈ ks) : ks' = ks.filter fun k => decide (k ∈ ks') := by
  apply sorted_unique _ sorted' once' (sorted.filter _) (once.filter _)
  · intro k
    rw [List.mem_filter, decide_eq_true_iff]
    exact ⟨fun member => ⟨inside k member, member⟩, And.right⟩
  · intro k first l second
    exact apart k (inside k first) l (inside l second)

theorem told_alone (single : p.Singles m p' m') (made : s.Makes p selection b)
    (made' : s.Makes p' selection b') (told : KeysTold (views.map fun v => (b.groupKey v, v))) :
    KeysTold ((views.filter (s.counts m)).map fun v => (b'.groupKey v, v)) := by
  apply keysTold_iff.mpr
  intro v member v' among
  rw [groupKey_alone single made made', groupKey_alone single made made']
  exact keysTold_iff.mp told v (List.mem_filter.mp member).1 v' (List.mem_filter.mp among).1

theorem rows_alone (single : p.Singles m p' m') (made : s.Makes p selection b)
    (made' : s.Makes p' selection b') (views : List (RowView Column)) (k : List Cell) :
    ((views.filter (s.counts m)).filter fun v => b'.groupKey v = k)
      = (views.filter fun v => b.groupKey v = k).filter (s.counts m) := by
  rw [List.filter_filter, List.filter_filter]
  simp only [groupKey_alone single made made', Bool.and_comm]

theorem items_alone (date : String) (key : List GroupValue) (single : p.Singles m p' m')
    (made : s.Makes p selection b) (made' : s.Makes p' selection b')
    (once : p.columnNames.Nodup) (once' : p'.columnNames.Nodup)
    (told : KeysTold (views.map fun v => (b.groupKey v, v))) :
    Binary64.Padded (items p' m' b' (views.filter (s.counts m)) date key)
        (items p m b views date key) ∧
      ∀ x ∈ items p m b views date key, Binary64.IsSum x := by
  obtain ⟨c, member, own⟩ := matched_right (checkAll_ok made.metrics).flip single.member
  obtain ⟨c', member', own'⟩ := matched_right (checkAll_ok made'.metrics).flip
    (single.metrics ▸ List.mem_singleton.mpr rfl : m' ∈ p'.metrics)
  have includes : c.count.includes = s.counts m := funext (includes_counts own)
  obtain ⟨ks, sorted, distinct, keys, items⟩ :=
    items_keys (m := m) date key made once member (metric_ok own).2.2 told
  obtain ⟨ks', sorted', distinct', keys', items'⟩ :=
    items_keys (m := m') date key made' once' member' (metric_ok own').2.2
      (told_alone single made made' told)
  have rows (k : List Cell) : ((views.filter (s.counts m)).filter fun v => b'.groupKey v = k)
      = (views.filter fun v => b.groupKey v = k).filter c.count.includes :=
    includes ▸ rows_alone single made made' views k
  have some (k : List Cell) : k ∈ ks' ↔
      (views.filter fun v => b.groupKey v = k).filter c.count.includes ≠ [] := by
    rw [← rows k, keys' k]
    constructor
    · rintro ⟨v, inside, same⟩
      exact List.ne_nil_of_mem (List.mem_filter.mpr ⟨inside, decide_eq_true same⟩)
    · intro filled
      obtain ⟨v, inside⟩ := List.exists_mem_of_ne_nil _ filled
      obtain ⟨inside, same⟩ := List.mem_filter.mp inside
      exact ⟨v, inside, of_decide_eq_true same⟩
  -- The request for the metric alone has fewer groups, but in the same order: both lists are sorted.
  have order : ks' = ks.filter fun k => decide (k ∈ ks') := by
    refine sorted_sublist ?_ sorted distinct sorted' distinct' ?_
    · intro k first l second
      obtain ⟨v, inside, rfl⟩ := (keys k).mp first
      obtain ⟨v', inside', rfl⟩ := (keys l).mp second
      exact keysTold_iff.mp told v inside v' inside'
    · intro k member
      obtain ⟨v, inside, rfl⟩ := (keys' k).mp member
      exact (keys _).mpr ⟨v, (List.mem_filter.mp inside).1, (groupKey_alone single made made' v).symm⟩
  rw [items, items', order]
  constructor
  · refine Binary64.Padded.filterMap ?_ ?_
    · intro k _ kept
      rw [rows k, metric_singles single own own']
      refine itemOf_alone single made made' (QueryPlan.isTold_of_nodup once)
        (QueryPlan.isTold_of_nodup once') (k := k) ?_ ((some k).mp (of_decide_eq_true kept))
      exact fun v inside => of_decide_eq_true (List.mem_filter.mp inside).2
    · intro k _ left
      exact itemOf_none (not_not.mp (mt (some k).mpr (of_decide_eq_false left)))
  · intro x shown
    obtain ⟨k, _, item⟩ := List.mem_filterMap.mp shown
    exact itemOf_sum item

/-- Whether two branches are those of one selection, in two requests. -/
def Twins (s : Source) (p p' : QueryPlan) (b b' : Branch) : Prop :=
  ∃ selection, s.Makes p selection b ∧ s.Makes p' selection b'

theorem views_alone (single : p.Singles m p' m') (made : s.Makes p selection b)
    (made' : s.Makes p' selection b') (db : Database) :
    b'.views db = (b.views db).filter (s.counts m) := by
  unfold Branch.views
  rw [scopes_alone single made made' db, List.filter_map]
  rfl

variable {db : Database} {statement statement' : SeriesStatement} {rows rows' : List ResultRow}

theorem branches_alone (single : p.Singles m p' m') (once : p.columnNames.Nodup)
    (once' : p'.columnNames.Nodup) {bs bs' : List Branch} (matched : List.Forall₂ (Twins s p p') bs bs')
    (told : ∀ b ∈ bs, KeysTold ((b.views db).map fun v => (b.groupKey v, v))) :
    Binary64.Padded (bs'.flatMap fun b => items p' m' b (b.views db) date key)
        (bs.flatMap fun b => items p m b (b.views db) date key) ∧
      ∀ x ∈ bs.flatMap fun b => items p m b (b.views db) date key, Binary64.IsSum x := by
  induction matched with
  | nil => exact ⟨.nil, fun x member => absurd member List.not_mem_nil⟩
  | @cons b b' rest rest' twins _ ih =>
    obtain ⟨selection, made, made'⟩ := twins
    obtain ⟨own, later⟩ := List.forall_mem_cons.mp told
    obtain ⟨padded, sums⟩ := items_alone date key single made made' once once' own
    obtain ⟨others, tail⟩ := ih later
    rw [← views_alone single made made' db] at padded
    rw [List.flatMap_cons, List.flatMap_cons]
    exact ⟨padded.append others, List.forall_mem_append.mpr ⟨sums, tail⟩⟩

theorem value_alone (single : p.Singles m p' m') (once : p.columnNames.Nodup)
    (once' : p'.columnNames.Nodup) (built : s.build p = .ok statement)
    (built' : s.build p' = .ok statement')
    (told : ∀ b ∈ statement.branches, KeysTold ((b.views db).map fun v => (b.groupKey v, v)))
    (answered : db.series? statement = some rows) (answered' : db.series? statement' = some rows') :
    p.value rows m key date = p'.value rows' m' key date := by
  have own := Source.built built
  have other := Source.built built'
  rw [single.groups] at other
  have twins : List.Forall₂ (Twins s p p') statement.branches statement'.branches :=
    matched_both own other fun made made' => ⟨_, made, made'⟩
  obtain ⟨padded, sums⟩ := branches_alone single once once' twins told
  rw [value_items built (QueryPlan.isTold_of_nodup once) answered,
    value_items built' (QueryPlan.isTold_of_nodup once') answered']
  exact (padded.sum sums .zero).symm

end Source

namespace Prepared

def tellsGroups (p : Prepared) (w : World) : Bool :=
  p.statement.branches.all fun b =>
    let keys := (b.views (p.database w)).map b.groupKey
    keys.all fun k => keys.all fun l => !sameKey k l || decide (k = l)

theorem tellsGroups_told {p : Prepared} {w : World} (tells : p.tellsGroups w = true) :
    ∀ b ∈ p.statement.branches,
      KeysTold ((b.views (p.database w)).map fun v => (b.groupKey v, v)) := by
  intro b member
  apply keysTold_iff.mpr
  intro v first v' second same
  have keys := List.all_eq_true.mp tells b member
  have held := List.all_eq_true.mp (List.all_eq_true.mp keys _ (List.mem_map_of_mem first)) _
    (List.mem_map_of_mem second)
  rw [same, Bool.not_true, Bool.false_or] at held
  exact of_decide_eq_true held

end Prepared

namespace Engine

/-- A metric shows the same values beside other metrics as alone, at every date and combination, where
the store puts no rows with different group values into one group. -/
theorem metrics_independent {w : World} {e e' e'' : Engine} {q : InsightQuery} {r : RequestedMetric}
    {prepared : Prepared} {joint alone : List Series} (asked : r ∈ q.metrics)
    (made : e.prepare w q = (.ok prepared, e'))
    (titles : (prepared.plan.metrics.map (·.title.text)).Nodup)
    (tells : prepared.tellsGroups w = true) (first : e.query w q = (.ok joint, e'))
    (second : e.query w (q.alone r) = (.ok alone, e'')) :
    ∃ single m m' rows rows', e.prepare w (q.alone r) = (.ok single, e'') ∧
      prepared.plan.Singles m single.plan m' ∧ m.name = r.name ∧ m.math = r.math ∧
      (prepared.database w).series? prepared.statement = some rows ∧
      joint = prepared.plan.shown rows ∧
      (single.database w).series? single.statement = some rows' ∧
      alone = single.plan.shown rows' ∧
      ∀ key date, prepared.plan.valueShown rows m key date
        = single.plan.valueShown rows' m' key date := by
  obtain ⟨rows, answered, shown⟩ := query_rows made first
  obtain ⟨single, rows', made', answered', shown'⟩ := query_ok second
  obtain ⟨planned, found, built⟩ := prepare_ok made
  obtain ⟨planned', found', built'⟩ := prepare_ok made'
  have passes := InsightQuery.passes planned
  have passes' := InsightQuery.passes planned'
  obtain ⟨m, m', singles, name, math⟩ := InsightQuery.alone_singles passes passes' asked
  have resolved : single.resolved = prepared.resolved := by
    rw [singles.id, singles.type, found] at found'
    exact (Except.ok.inj found').symm
  -- The source depends on the id and the groups, which both plans share.
  have source : prepared.resolved.source single.plan = prepared.resolved.source prepared.plan := by
    unfold Resolved.source
    rw [singles.id, singles.groups]
  have once := QueryPlan.columnNames_nodup passes titles
  have once' : single.plan.columnNames.Nodup := by
    refine QueryPlan.columnNames_nodup passes' ?_
    rw [singles.metrics]
    exact List.nodup_singleton _
  refine ⟨single, m, m', rows, rows', made', singles, name, math, answered, shown, answered', shown',
    fun key date => ?_⟩
  unfold Prepared.database at answered answered'
  rw [resolved] at answered' built'
  rw [source] at built'
  rw [QueryPlan.valueShown_eq, QueryPlan.valueShown_eq]
  exact Source.value_alone singles once once' built built' (Prepared.tellsGroups_told tells) answered
    answered'

theorem metrics_independent_sample : ∃ prepared single rows rows' m m' e' e'',
    sampleEngine.prepare (sampleWorld sampleVisits) sampleRequest = (.ok prepared, e') ∧
    sampleEngine.prepare (sampleWorld sampleVisits) (sampleRequest.alone ⟨"visit", .events⟩)
      = (.ok single, e'') ∧
    (prepared.database (sampleWorld sampleVisits)).series? prepared.statement = some rows ∧
    (single.database (sampleWorld sampleVisits)).series? single.statement = some rows' ∧
    prepared.plan.Singles m single.plan m' ∧
    ∀ key date, prepared.plan.valueShown rows m key date
      = single.plan.valueShown rows' m' key date := by
  obtain ⟨prepared, e', made, held⟩ := exists_prepared (sampleWorld sampleVisits) sampleEngine
    sampleRequest (fun prepared =>
      (prepared.database (sampleWorld sampleVisits)).runs prepared.statement
        && (prepared.plan.metrics.map (·.title.text)).Nodup
        && prepared.tellsGroups (sampleWorld sampleVisits)) (by decide +kernel)
  obtain ⟨lone, e'', lonely, runs'⟩ := exists_prepared (sampleWorld sampleVisits) sampleEngine
    (sampleRequest.alone ⟨"visit", .events⟩) (fun prepared =>
      (prepared.database (sampleWorld sampleVisits)).runs prepared.statement) (by decide +kernel)
  simp only [Bool.and_eq_true, decide_eq_true_eq] at held
  obtain ⟨⟨runs, titles⟩, tells⟩ := held
  obtain ⟨_, answers⟩ := Database.series_some runs
  obtain ⟨_, answers'⟩ := Database.series_some runs'
  obtain ⟨single, m, m', rows, rows', made', singles, _, _, answered, _, answered', _, same⟩ :=
    metrics_independent (List.mem_cons_self : _ ∈ sampleRequest.metrics) made titles tells
      (query_answered made answers) (query_answered lonely answers')
  exact ⟨prepared, single, rows, rows', m, m', e', e'', made, made', answered, answered', singles,
    same⟩

def sampleShipments : WideTable :=
  ⟨"shop", none, ⟨"parcels", rfl⟩, ⟨"packed", rfl⟩, .timestamp, none, Zone.utc, ⟨"buyer", rfl⟩,
    some ⟨"kind", rfl⟩, [⟨⟨"shipped", rfl⟩, .number, none⟩]⟩

/-- A store of two parcels. The least whole number and the floating one of the same size are one group,
which shows the number that comes first. -/
def sampleWarehouse : World :=
  let columns := [("buyer", .text), ("kind", .text), ("packed", .integer), ("shipped", .integer)]
  let parcel (kind : String) (shipped : Cell) : TableRow :=
    [("buyer", .text "b"), ("kind", .text kind), ("packed", .int 0), ("shipped", shipped)]
  ⟨fun _ => true, .empty, fun _ => ⟨[("parcels", Table.ofRows columns
    [parcel "gift" (.int leastWord), parcel "sale" (.real (.ofInt leastWord))])]⟩⟩

def sampleWarehouseEngine : Engine :=
  ⟨.sqlite, ⟨true, some "sqlite::memory:", ⟨"", some [.wide sampleShipments]⟩, []⟩, 10, 10, 100⟩

def sampleShippedRequest : InsightQuery :=
  { sampleRequest with
    insightId := "shop"
    insightType := .wideTable
    metrics := [⟨"gift", .events⟩, ⟨"sale", .events⟩]
    filters := []
    groups := [⟨"shipped", .number, []⟩] }

def showsSales (x : Binary64) (p : Prepared) : Bool :=
  match (p.database sampleWarehouse).series? p.statement with
  | some rows => p.plan.metrics.all fun m => m.name ≠ "sale"
      || p.plan.valueShown rows m [.label "-9223372036854775808"] "1970-01-01" = x
  | none => false

theorem showsSales_shown {x : Binary64} {p : Prepared} {m : PlannedMetric}
    (shows : showsSales x p = true) (member : m ∈ p.plan.metrics) (name : m.name = "sale") :
    ∃ rows, (p.database sampleWarehouse).series? p.statement = some rows ∧
      p.plan.valueShown rows m [.label "-9223372036854775808"] "1970-01-01" = x := by
  unfold showsSales at shows
  split at shows
  · rename_i rows answered
    have held := List.all_eq_true.mp shows m member
    simp only [name, ne_eq, not_true, decide_false, Bool.false_or, decide_eq_true_eq] at held
    exact ⟨rows, answered, held⟩
  · cases shows

/-- Sales are shown beside gifts at a number at which none are shown alone. -/
theorem metrics_interfere : ∃ prepared single rows rows' m m' e' e'',
    sampleWarehouseEngine.prepare sampleWarehouse sampleShippedRequest = (.ok prepared, e') ∧
    sampleWarehouseEngine.prepare sampleWarehouse (sampleShippedRequest.alone ⟨"sale", .events⟩)
      = (.ok single, e'') ∧
    (prepared.plan.metrics.map (·.title.text)).Nodup ∧ prepared.plan.Singles m single.plan m' ∧
    (prepared.database sampleWarehouse).series? prepared.statement = some rows ∧
    (single.database sampleWarehouse).series? single.statement = some rows' ∧
    sampleWarehouseEngine.query sampleWarehouse sampleShippedRequest
      = (.ok (prepared.plan.shown rows), e') ∧
    sampleWarehouseEngine.query sampleWarehouse (sampleShippedRequest.alone ⟨"sale", .events⟩)
      = (.ok (single.plan.shown rows'), e'') ∧
    prepared.plan.valueShown rows m [.label "-9223372036854775808"] "1970-01-01" = .ofInt 1 ∧
    single.plan.valueShown rows' m' [.label "-9223372036854775808"] "1970-01-01" = .zero := by
  obtain ⟨prepared, e', made, held⟩ := exists_prepared sampleWarehouse sampleWarehouseEngine
    sampleShippedRequest (fun p => (p.plan.metrics.map (·.title.text)).Nodup
      && showsSales (.ofInt 1) p) (by decide +kernel)
  obtain ⟨single, e'', made', none⟩ := exists_prepared sampleWarehouse sampleWarehouseEngine
    (sampleShippedRequest.alone ⟨"sale", .events⟩) (showsSales .zero) (by decide +kernel)
  rw [Bool.and_eq_true, decide_eq_true_eq] at held
  obtain ⟨titles, one⟩ := held
  have passes := InsightQuery.passes (prepare_ok made).1
  have passes' := InsightQuery.passes (prepare_ok made').1
  obtain ⟨m, m', singles, name, _⟩ := InsightQuery.alone_singles passes passes'
    (List.mem_cons_of_mem _ List.mem_cons_self : (⟨"sale", .events⟩ : RequestedMetric) ∈
      sampleShippedRequest.metrics)
  obtain ⟨rows, answered, shown⟩ := showsSales_shown one singles.member name
  obtain ⟨rows', answered', shown'⟩ := showsSales_shown none
    (singles.metrics ▸ List.mem_singleton.mpr rfl) (singles.name.trans name)
  exact ⟨prepared, single, rows, rows', m, m', e', e'', made, made', titles, singles, answered,
    answered', query_answered made answered, query_answered made' answered', shown, shown'⟩

end Engine

end Analytics
