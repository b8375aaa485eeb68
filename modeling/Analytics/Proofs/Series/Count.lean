import Analytics.Proofs.Source.Rowwise

/-!
Direct counts. What the value of a series is to be is said by the rows of a table alone: those that
the request selects, whose event the metric counts, with the label of the date and the values of the
combination.
-/

namespace Analytics

def Cell.hasLabel (c : Cell) (label : String) : Bool :=
  c = .text label || (c.isNull && label = ResultValue.nullLabel)

/-- Whether a bucket has a row, by its predicate on the column of its group. -/
def Bucket.accepts (b : Bucket) (type : ValueType) (column : StoredColumn Column)
    (v : RowView Column) : Bool :=
  match Filter.compile type b.operator b.value column with
  | .ok p => (p.eval v).holds
  | .error _ => false

def GroupPlan.hasValue (g : GroupPlan) (column : StoredColumn Column) (v : RowView Column)
    (value : GroupValue) : Bool :=
  match g.form, value with
  | .raw _, .label text => (v.cell column.ref).hasLabel text
  | .custom buckets, .bucket index => buckets[index]?.any fun b => b.accepts g.type column v
  | _, _ => false

namespace Source

def passes (s : Source) (v : RowView Column) (f : PlannedFilter) : Bool :=
  match s.filter f with
  | .ok c => c.holdsOn v
  | .error _ => false

def selects (s : Source) (p : QueryPlan) (v : RowView Column) : Bool :=
  Condition.allHold s.scope v && ((s.dates.range p.window).eval v).holds
    && p.filters.all (s.passes v)

def counts (s : Source) (m : PlannedMetric) (v : RowView Column) : Bool :=
  m.countsEvery || match s.eventName with
    | some column => (compareCells .equal (v.affinity column) (v.cell column) (.text m.name)).holds
    | none => false

def hasValues (s : Source) (index : Nat) (v : RowView Column) :
    List GroupPlan → List GroupValue → Bool
  | [], [] => true
  | g :: rest, value :: values =>
    match s.groupColumn index g with
    | .ok column => g.hasValue column v value && hasValues s (index + 1) v rest values
    | .error _ => false
  | _, _ => false

def isAt (s : Source) (p : QueryPlan) (date : String) (key : List GroupValue)
    (v : RowView Column) : Bool :=
  (s.dates.label p.window).eval v = .text date && s.hasValues 0 v p.groups key

def countOf (s : Source) (m : PlannedMetric) (rows : List (RowView Column)) : Nat :=
  match m.math with
  | .events => rows.length
  | .sessions =>
    match s.session with
    | some column =>
      (distinctCells [] ((rows.map fun v => v.cell column).filter fun x => !x.isNull)).length
    | none => 0

/-- The rows of a table, as views, that a request selects. -/
def selected (s : Source) (p : QueryPlan) (t : Table) : List (RowView Column) :=
  (t.rows.map (t.view s.relation.name)).filter (s.selects p)

/-- The count of a metric over the rows of a table at a date and a combination. -/
def count (s : Source) (p : QueryPlan) (t : Table) (m : PlannedMetric) (key : List GroupValue)
    (date : String) : Nat :=
  s.countOf m ((s.selected p t).filter fun v => s.counts m v && s.isAt p date key v)

end Source

theorem Truth.any_holds (ts : List Truth) : (Truth.any ts).holds = ts.any Truth.holds := by
  induction ts with
  | nil => rfl
  | cons t rest ih =>
    rw [List.any_cons, ← ih]
    change (t.or (Truth.any rest)).holds = _
    cases t <;> cases Truth.any rest <;> rfl

theorem QueryPlan.mem_distinctNames {seen names : List String} {name : String} :
    name ∈ distinctNames seen names ↔ name ∈ names ∧ name ∉ seen := by
  induction names generalizing seen with
  | nil => exact ⟨fun member => absurd member List.not_mem_nil, And.left⟩
  | cons first rest ih =>
    unfold distinctNames
    by_cases here : name = first <;> by_cases known : seen.contains first = true <;>
      simp_all

theorem QueryPlan.mem_eventNames {p : QueryPlan} {m : PlannedMetric} (member : m ∈ p.metrics)
    (single : m.countsEvery = false) : m.name ∈ p.eventNames := by
  refine mem_distinctNames.mpr ⟨List.mem_map.mpr ⟨m, ?_, rfl⟩, List.not_mem_nil⟩
  exact List.mem_filter.mpr ⟨member, by rw [single]; rfl⟩

namespace Source

variable {s : Source} {p : QueryPlan} {m : PlannedMetric}

theorem passes_ok {f : PlannedFilter} {c : Condition} (made : s.filter f = .ok c)
    (v : RowView Column) : s.passes v f = c.holdsOn v := by
  unfold passes
  rw [made]

theorem filters_pass {cs : List Condition} (filtered : checkAll s.filter p.filters = .ok cs)
    (v : RowView Column) : Condition.allHold cs v = p.filters.all (s.passes v) := by
  have matched := checkAll_ok filtered
  clear filtered
  generalize p.filters = fs at matched
  induction matched with
  | nil => rfl
  | cons made _ ih =>
    unfold Condition.allHold at ih ⊢
    rw [List.all_cons, List.all_cons, ih, passes_ok made]

theorem eventCondition_counts {c : Condition} (known : s.eventCondition p = .ok c)
    (member : m ∈ p.metrics) {v : RowView Column} (counted : s.counts m v = true) :
    c.holdsOn v = true := by
  unfold eventCondition at known
  split at known
  · cases known
    rfl
  rename_i single
  have one : m.countsEvery = false := by
    have none := List.any_eq_false.mp (Bool.eq_false_iff.mpr single)
    exact Bool.eq_false_iff.mpr (none m member)
  unfold counts at counted
  rw [one, Bool.false_or] at counted
  cases named : s.eventName with
  | none =>
    rw [named] at known
    cases known
  | some column =>
    rw [named] at known counted
    cases known
    simp only [Condition.holdsOn, Predicate.eval, Predicate.evalWithin, Truth.any_holds,
      List.map_map, List.any_map]
    exact List.any_eq_true.mpr ⟨m.name, QueryPlan.mem_eventNames member one, counted⟩

theorem conditions_counts {cs : List Condition} (made : s.conditions p = .ok cs)
    (member : m ∈ p.metrics) (v : RowView Column) :
    (Condition.allHold cs v && s.counts m v) = (s.selects p v && s.counts m v) := by
  obtain ⟨event, filters, known, filtered, rfl⟩ := conditions_ok made
  have split : Condition.allHold (s.scope ++ .plain (s.dates.range p.window) :: event :: filters) v
      = (Condition.allHold s.scope v && (((s.dates.range p.window).eval v).holds &&
          (event.holdsOn v && Condition.allHold filters v))) := by
    unfold Condition.allHold
    rw [List.all_append, List.all_cons, List.all_cons]
    rfl
  rw [split, filters_pass filtered, selects]
  cases counted : s.counts m v with
  | false => rw [Bool.and_false, Bool.and_false]
  | true => rw [eventCondition_counts known member counted, Bool.true_and, Bool.and_true,
      Bool.and_true, Bool.and_assoc]

theorem includes_counts {c : MetricColumn} (made : s.metric m = .ok c) (v : RowView Column) :
    c.count.includes v = s.counts m v := by
  obtain ⟨known, _, _⟩ := metric_ok made
  unfold eventOf at known
  unfold counts Count.includes
  split at known
  · rename_i every
    rw [every, ← Except.ok.inj known]
    rfl
  · rename_i single
    rw [Bool.eq_false_iff.mpr single, Bool.false_or]
    cases named : s.eventName with
    | none =>
      rw [named] at known
      cases known
    | some column =>
      rw [named] at known
      rw [← Except.ok.inj known]
      simp only [Predicate.eval, Scalar.affinity, Scalar.eval, Affinity.common_none]
      rfl

theorem eval_countOf {c : MetricColumn} (rowwise : s.IsRowwise) (made : s.metric m = .ok c)
    (views : List (RowView Column)) :
    c.count.eval views = s.countOf m (views.filter (s.counts m)) := by
  have included : c.count.includes = s.counts m := funext (includes_counts made)
  obtain ⟨_, found, _⟩ := metric_ok made
  unfold countedOf at found
  unfold Count.eval countOf
  rw [included]
  generalize m.math = math at found ⊢
  cases math with
  | events => rw [← Except.ok.inj found, rowwise.eventId]
  | sessions =>
    dsimp only at found
    cases named : s.session with
    | none =>
      rw [named] at found
      cases found
    | some column =>
      rw [named] at found
      rw [← Except.ok.inj found]

end Source

end Analytics
