import Analytics.Proofs.Series.Titles

/-!
Distinct result columns. The columns of groups are told apart when a request is checked; those of
metrics are apart unless a name that is asked for once is spelled like the label of a name that is
asked for twice. Main statement: this is the only way in which two columns share a name.
-/

namespace Analytics

namespace RequestedMetric

variable {all : List RequestedMetric} {m m' : RequestedMetric}

def isShared (all : List RequestedMetric) (m : RequestedMetric) : Bool :=
  1 < (all.filter fun other => other.name = m.name).length

def fullLabel (m : RequestedMetric) : String := m.name ++ " (" ++ m.math.name ++ ")"

/-- That no name asked for once is the label of a name asked for twice. -/
def LabelsApart (all : List RequestedMetric) : Prop :=
  ∀ m ∈ all, ∀ other ∈ all, m.isShared all = true → other.isShared all = false →
    other.name ≠ m.fullLabel

instance (all : List RequestedMetric) : Decidable (LabelsApart all) :=
  inferInstanceAs (Decidable (∀ m ∈ all, ∀ other ∈ all, m.isShared all = true →
    other.isShared all = false → other.name ≠ m.fullLabel))

theorem label_shared (shared : m.isShared all = true) : m.label all = m.fullLabel :=
  if_pos (of_decide_eq_true shared)

theorem label_single (single : m.isShared all = false) : m.label all = m.name :=
  if_neg (of_decide_eq_false single)

theorem firstRepeated_none {seen : List RequestedMetric} (none : firstRepeated? seen all = none) :
    all.Nodup ∧ ∀ m ∈ all, m ∉ seen := by
  induction all generalizing seen with
  | nil => exact ⟨List.nodup_nil, fun m member => absurd member List.not_mem_nil⟩
  | cons first rest ih =>
    unfold firstRepeated? at none
    split at none
    · cases none
    rename_i fresh
    obtain ⟨once, apart⟩ := ih none
    refine ⟨List.nodup_cons.mpr ⟨?_, once⟩, List.forall_mem_cons.mpr ⟨?_, ?_⟩⟩
    · exact fun member => apart first member List.mem_cons_self
    · exact fun member => fresh (List.contains_iff_mem.mpr member)
    · exact fun m member before => apart m member (List.mem_cons_of_mem first before)

theorem planAll_nodup {metrics : List PlannedMetric} (passed : planAll all = .ok metrics) :
    all.Nodup := by
  unfold planAll at passed
  split at passed
  · cases passed
  split at passed
  · cases passed
  · rename_i none
    exact (firstRepeated_none none).1

theorem fullLabel_inj (same : m.fullLabel = m'.fullLabel) : m = m' := by
  obtain ⟨name, math⟩ := m
  obtain ⟨name', math'⟩ := m'
  have ending := congrArg (fun s => s.toList.reverse.take 3) same
  have maths : math = math' := by
    cases math with
    | events => cases math' with
      | events => rfl
      | sessions => simp [fullLabel, MetricMath.name, String.toList_append] at ending
    | sessions => cases math' with
      | events => simp [fullLabel, MetricMath.name, String.toList_append] at ending
      | sessions => rfl
  subst maths
  have names : name = name' := by
    unfold fullLabel at same
    rw [String.append_left_inj, String.append_left_inj, String.append_left_inj] at same
    exact same
  rw [names]

theorem single_alone (single : m.isShared all = false) (first : m ∈ all) (second : m' ∈ all)
    (same : m'.name = m.name) : m' = m := by
  have few := of_decide_eq_false single
  have own : m ∈ all.filter fun other => other.name = m.name :=
    List.mem_filter.mpr ⟨first, decide_eq_true rfl⟩
  have other : m' ∈ all.filter fun other => other.name = m.name :=
    List.mem_filter.mpr ⟨second, decide_eq_true same⟩
  generalize all.filter (fun other => decide (other.name = m.name)) = named at few own other
  match named with
  | [] => cases own
  | [_] => rw [List.mem_singleton.mp own, List.mem_singleton.mp other]
  | _ :: _ :: _ => exact absurd (Nat.succ_lt_succ (Nat.zero_lt_succ _)) few

theorem labels_nodup (once : all.Nodup) : (all.map (label all)).Nodup ↔ LabelsApart all := by
  constructor
  · intro distinct m member other among shared single same
    have equal := List.inj_on_of_nodup_map distinct member among
      (by rw [label_shared shared, label_single single, same])
    rw [equal, single] at shared
    cases shared
  · intro apart
    refine once.map_on fun m member other among same => ?_
    cases shared : m.isShared all with
    | true =>
      rw [label_shared shared] at same
      cases shared' : other.isShared all with
      | true => exact fullLabel_inj (same.trans (label_shared shared'))
      | false =>
        rw [label_single shared'] at same
        exact absurd same.symm (apart m member other among shared shared')
    | false =>
      rw [label_single shared] at same
      cases shared' : other.isShared all with
      | true =>
        rw [label_shared shared'] at same
        exact absurd same (apart other among m member shared' shared)
      | false => exact (single_alone shared member among (same.trans (label_single shared')).symm).symm

end RequestedMetric

theorem Ident.checkLength_ok {raw : String} (passed : Ident.checkLength raw = .ok ()) :
    raw.utf8ByteSize ≤ maxIdentBytes := by
  unfold Ident.checkLength at passed
  split at passed
  · cases passed
  · exact Nat.le_of_not_lt (by assumption)

theorem Ident.new_short {raw : String} {i : Ident} (named : Ident.new? raw = .ok i) :
    i.text.utf8ByteSize ≤ maxIdentBytes := by
  rw [Ident.new_text named]
  unfold Ident.new? at named
  split at named
  · cases named
  split at named
  · cases named
  · exact Ident.checkLength_ok (by assumption)

theorem GroupKey.title_short {k : GroupKey} {i : Ident} (named : k.title = .ok i) :
    i.text.utf8ByteSize ≤ maxIdentBytes := by
  rw [GroupKey.title_text named]
  unfold GroupKey.title at named
  split at named
  · cases named
  split at named
  · cases named
  · exact Ident.checkLength_ok (by assumption)

theorem RequestedMetric.title_short {all : List RequestedMetric} {r : RequestedMetric}
    {m : PlannedMetric} (passed : r.plan all = .ok m) :
    m.title.text.utf8ByteSize ≤ maxIdentBytes := by
  unfold RequestedMetric.plan at passed
  dsimp only at passed
  split at passed
  · cases passed
  split at passed
  · cases passed
  · cases passed
    exact Ident.new_short (by assumption)

namespace QueryPlan

variable {q : InsightQuery} {limit : Nat} {p : QueryPlan}

theorem metric_titles (passes : q.Passes limit p) :
    p.metrics.map (·.title.text) = q.metrics.map (RequestedMetric.label q.metrics) :=
  (matched_map ((RequestedMetric.planAll_ok passes.metrics).imp fun _ _ planned =>
    (RequestedMetric.plan_ok planned).2.2.symm)).symm

theorem columnNames_short (passes : q.Passes limit p) {name : String}
    (member : name ∈ p.columnNames) : name.utf8ByteSize ≤ maxIdentBytes := by
  rcases List.mem_cons.mp member with rfl | later
  · decide
  rcases List.mem_append.mp later with early | late
  · obtain ⟨m, among, rfl⟩ := List.mem_map.mp early
    obtain ⟨r, _, planned⟩ := matched_right (RequestedMetric.planAll_ok passes.metrics) among
    exact RequestedMetric.title_short planned
  · obtain ⟨title, among, rfl⟩ := List.mem_map.mp late
    obtain ⟨g, chosen, inside⟩ := List.mem_flatMap.mp among
    obtain ⟨r, _, planned⟩ := matched_right (checkAll_ok passes.groups) chosen
    obtain ⟨_, named⟩ := GroupPlan.title_named planned inside
    exact GroupKey.title_short named

theorem columnNames_nodup_iff (passes : q.Passes limit p) :
    p.columnNames.Nodup ↔ RequestedMetric.LabelsApart q.metrics := by
  have once := RequestedMetric.planAll_nodup passes.metrics
  rw [← RequestedMetric.labels_nodup once, ← metric_titles passes]
  refine ⟨fun distinct => ?_, columnNames_nodup passes⟩
  exact (List.nodup_append.mp (List.nodup_cons.mp distinct).2).1

end QueryPlan

/-- The names of result columns are short, are those of every branch, and are different exactly if the
labels of the metrics are apart; every cell of a result row is then found under its own name. -/
theorem columns_unambiguous {q : InsightQuery} {limit : Nat} {p : QueryPlan}
    (planned : q.plan limit = .ok p) :
    (∀ name ∈ p.columnNames, name.utf8ByteSize ≤ 63) ∧
    (p.columnNames.Nodup ↔ RequestedMetric.LabelsApart q.metrics) ∧
    ∀ {r : Resolved} {s : SeriesStatement}, (r.source p).build p = .ok s → ∀ b ∈ s.branches,
      b.columnNames = p.columnNames ∧
      (RequestedMetric.LabelsApart q.metrics → ∀ first views, ∀ cell ∈ b.members first views,
        ResultRow.cell (b.resultRow first views) cell.1 = cell.2) := by
  have passes := InsightQuery.passes planned
  have distinct := QueryPlan.columnNames_nodup_iff passes
  refine ⟨fun name => QueryPlan.columnNames_short passes, distinct, ?_⟩
  intro r s built b member
  obtain ⟨selection, _, made⟩ := matched_right (Source.built built) member
  have names := made.columnNames
  refine ⟨names, fun apart first views cell among => Branch.resultRow_cell ?_ among⟩
  rw [names]
  exact distinct.mpr apart

def sampleMetrics (last : String) : InsightQuery :=
  { sampleRequest with metrics := [⟨"visit", .events⟩, ⟨"visit", .sessions⟩, ⟨last, .events⟩] }

theorem columns_unambiguous_sample : ∃ p s, (sampleMetrics "visit (all)").plan 10 = .ok p ∧
    (Resolved.internal.source p).build p = .ok s ∧ p.columnNames.Nodup ∧
      (∀ name ∈ p.columnNames, name.utf8ByteSize ≤ 63) ∧
      ∀ b ∈ s.branches, b.columnNames = p.columnNames := by
  obtain ⟨p, s, planned, built⟩ := exists_built (q := sampleMetrics "visit (all)") (r := .internal)
    (by decide +kernel)
  obtain ⟨short, distinct, branches⟩ := columns_unambiguous planned
  exact ⟨p, s, planned, built, distinct.mpr (by decide +kernel), short,
    fun b member => (branches built b member).1⟩

/-- A name asked for once can be the label of one that is asked for twice. -/
theorem columns_share_name : ∃ p, (sampleMetrics "visit (events)").plan 10 = .ok p ∧
    ¬p.columnNames.Nodup := by
  obtain ⟨p, s, planned, _⟩ := exists_built (q := sampleMetrics "visit (events)") (r := .internal)
    (by decide +kernel)
  refine ⟨p, planned, fun distinct => ?_⟩
  have apart := (QueryPlan.columnNames_nodup_iff (InsightQuery.passes planned)).mp distinct
  exact absurd apart (by decide +kernel)

end Analytics
