import Analytics.Proofs.Source.Exchanged
import Analytics.Proofs.Store.Copies

/-!
Copies of parameters. A request on a long table reads events, and parameters through joins and
linked conditions; so a further copy of a row of parameters puts nothing but copies beside events.
Where a group joins parameters, every metric counts distinct values, and does not see them.
-/

namespace Analytics

/-- The columns of parameters that requests read. -/
def ParameterTable.columns (t : ParameterTable) : List Ident :=
  [t.eventId, t.parameterName, t.value] ++ t.number.toList ++ t.text.toList ++ t.date.toList

theorem GroupColumn.ofBuckets_read {type : ValueType} {column : StoredColumn Column}
    {pinned : Option Nat} {position : Nat} {bs : List Bucket} {cs : List (GroupColumn Column)}
    (made : ofBuckets type column pinned position bs = .ok cs) {c : GroupColumn Column}
    (member : c ∈ cs) {x : Column} (inside : x ∈ c.expr.columns) : x = column.ref := by
  induction bs generalizing position cs with
  | nil =>
    cases made
    cases member
  | cons b rest ih =>
    obtain ⟨expr, others, rfl, later, chosen⟩ := ofBuckets_cons made
    rcases List.mem_cons.mp member with rfl | tail
    · rcases chosen with ⟨_, p, compiled, rfl⟩ | ⟨_, rfl⟩
      · exact Filter.compile_columns compiled x inside
      · cases inside
    · exact ih later tail

namespace Source

theorem groupColumns_read {s : Source} {index : Nat} {gs : List GroupPlan} {selection : Selection}
    {cs : List (GroupColumn Column)} (made : s.groupColumns index gs selection = .ok cs)
    {c : GroupColumn Column} (member : c ∈ cs) {x : Column} (inside : x ∈ c.expr.columns) :
    ∃ i g column, s.groupColumn i g = .ok column ∧ x = column.ref := by
  induction gs generalizing index selection cs with
  | nil =>
    cases made
    cases member
  | cons g rest ih =>
    obtain ⟨column, columns, others, read, planned, later, rfl⟩ := groupColumns_cons made
    rcases List.mem_append.mp member with early | late
    · refine ⟨index, g, column, read, ?_⟩
      unfold GroupColumn.ofPlan at planned
      split at planned
      · cases planned
        rw [List.mem_singleton.mp early] at inside
        exact List.mem_singleton.mp inside
      · exact GroupColumn.ofBuckets_read planned early inside
    · exact ih later late

end Source

namespace LongTable

/-- The columns of events, and those of parameters that requests read. -/
def reads (t : LongTable) (c : Column) : Prop :=
  c.relation = t.relation.name ∨ c.name ∈ t.parameters.columns

def SameParameter (t : LongTable) (row copy : TableRow) : Prop :=
  ∀ name ∈ t.parameters.columns, TableRow.cell copy name.text = TableRow.cell row name.text

/-- Whether a store has the tables of another one with a copy of a row put among the parameters, in
between some rows and others. -/
structure ParameterCopied (t : LongTable) (db db' : Database) (front back : List TableRow)
    (row copy : TableRow) : Prop where
  events : db'.table? t.events.name.text = db.table? t.events.name.text
  parameters : ∃ columns, db.table? t.parameters.name.text = some ⟨columns, front ++ back⟩ ∧
    db'.table? t.parameters.name.text = some ⟨columns, front ++ copy :: back⟩
  present : row ∈ front ++ back
  same : t.SameParameter row copy

variable {t : LongTable} {db db' : Database} {front back : List TableRow} {row copy : TableRow}
  {r : Relation} {p : QueryPlan} {selection : Selection} {b : Branch} {gs : List GroupPlan}
  {Φ : List RowScope → List RowScope → Prop}

theorem storedValue_reads (t : LongTable) (r : Relation) (type : ValueType) :
    t.reads (t.storedValue r type).ref := by
  refine Or.inr ?_
  unfold ParameterTable.columns storedValue
  cases type with
  | number => cases t.parameters.number <;> simp [Relation.column]
  | date => cases t.parameters.date <;> simp [Relation.column]
  | string => cases t.parameters.text <;> simp [Relation.column]
  | other => cases t.parameters.text <;> simp [Relation.column]

theorem link_reads (t : LongTable) (r : Relation) (field : String) :
    ∀ c ∈ (t.link r field).columns, t.reads c := by
  intro c member
  simp only [link, Predicate.columns, Scalar.columns, List.mem_append, List.mem_singleton,
    List.not_mem_nil, or_false] at member
  rcases member with (rfl | rfl) | rfl
  · exact Or.inr (by simp [ParameterTable.columns, Relation.column])
  · exact Or.inl rfl
  · exact Or.inr (by simp [ParameterTable.columns, Relation.column])

theorem filter_reads {f : PlannedFilter} {c : Condition} (made : t.filter f = .ok c) :
    (∀ column ∈ c.columns, t.reads column) ∧
      ∀ r link p, c = .linked r link p → r = t.filterRelation := by
  unfold filter at made
  split at made
  · obtain ⟨p, compiled, rfl⟩ := map_ok made
    refine ⟨fun column member => ?_, fun r link p linked => nomatch linked⟩
    rw [Filter.compile_columns compiled column member]
    exact Or.inl rfl
  · obtain ⟨p, compiled, rfl⟩ := map_ok made
    refine ⟨List.forall_mem_append.mpr ⟨t.link_reads _ _, fun column member => ?_⟩, ?_⟩
    · rw [Filter.compile_columns compiled column member]
      exact t.storedValue_reads _ _
    · intro r link p linked
      cases linked
      rfl

theorem conditions_read {cs : List Condition} (made : (t.source gs).conditions p = .ok cs) :
    ∀ c ∈ cs, (∀ column ∈ c.columns, t.reads column) ∧
      ∀ r link p, c = .linked r link p → r = t.filterRelation := by
  obtain ⟨event, filters, known, filtered, rfl⟩ := Source.conditions_ok made
  refine List.forall_mem_cons.mpr ⟨⟨fun c member => ?_, fun r link p linked => nomatch linked⟩,
    List.forall_mem_cons.mpr ⟨?_, fun c member => ?_⟩⟩
  · rw [DateSource.range_columns _ _ c member]
    exact Or.inl (t.dates_relation gs p.window)
  · unfold Source.eventCondition at known
    split at known
    · cases known
      exact ⟨fun c member => absurd member List.not_mem_nil, fun r link p linked => nomatch linked⟩
    · cases known
      refine ⟨fun c member => ?_, fun r link p linked => nomatch linked⟩
      have own : c = t.eventName := by
        simpa [Condition.columns, Predicate.columns, Scalar.columns, List.flatMap_map] using member
      rw [own]
      exact Or.inl rfl
  · obtain ⟨f, _, made⟩ := matched_right (checkAll_ok filtered) member
    exact filter_reads made

theorem mem_joinsFrom {index : Nat} {j : Join} (member : j ∈ t.joinsFrom index gs) :
    ∃ i field, j = ⟨t.groupRelation i, t.link (t.groupRelation i) field⟩ := by
  induction gs generalizing index with
  | nil => cases member
  | cons g rest ih =>
    unfold joinsFrom at member
    split at member
    · exact ih member
    · rcases List.mem_cons.mp member with rfl | later
      · exact ⟨index, g.field, rfl⟩
      · exact ih later

theorem joinsFrom_nil (none : (gs.any fun g => !t.namesEvents g.field) = false) (index : Nat) :
    t.joinsFrom index gs = [] := by
  induction gs generalizing index with
  | nil => rfl
  | cons g rest ih =>
    rw [List.any_cons, Bool.or_eq_false_iff, Bool.not_eq_false'] at none
    unfold joinsFrom
    rw [if_pos none.1]
    exact ih none.2 _

theorem metric_distinct {m : PlannedMetric} {c : MetricColumn}
    (made : (t.source gs).metric m = .ok c) (joined : t.joinsFrom 0 gs ≠ []) :
    c.count.distinct.isSome = true := by
  have some : (gs.any fun g => !t.namesEvents g.field) = true :=
    Bool.of_not_eq_false fun none => joined (joinsFrom_nil none 0)
  have counted := (Source.metric_ok made).2.1
  unfold Source.countedOf at counted
  split at counted
  · rw [← Except.ok.inj counted]
    change (if _ then _ else _ : Option Column).isSome = true
    rw [if_pos some]
    rfl
  · split at counted
    · rw [← Except.ok.inj counted]
      rfl
    · cases counted

theorem branch_relations (made : (t.source gs).Makes p selection b) :
    ∀ r ∈ b.relations, r = t.relation ∨
      r.table = t.parameters.name ∧ r.name ≠ t.relation.name := by
  intro r member
  rcases Branch.mem_relations.mp member with rfl | ⟨j, inside, rfl⟩ | ⟨link, q, inside⟩
  · exact Or.inl made.relation
  · rw [made.joins] at inside
    obtain ⟨i, field, rfl⟩ := mem_joinsFrom inside
    exact Or.inr ⟨rfl, (t.event_apart i).symm⟩
  · rw [(conditions_read made.conditions _ inside).2 r link q rfl]
    exact Or.inr ⟨rfl, t.event_unfiltered.symm⟩

theorem branch_reads (made : (t.source gs).Makes p selection b) : ∀ c ∈ b.columns, t.reads c := by
  intro c member
  rcases Branch.mem_columns.mp member with own | ⟨g, inside, read⟩ | ⟨j, inside, read⟩ |
    ⟨d, inside, read⟩
  · refine Or.inl ?_
    rcases List.mem_cons.mp own with rfl | counted
    · rw [made.label]
      exact t.dates_relation gs p.window
    · obtain ⟨m, among, read⟩ := List.mem_flatMap.mp counted
      obtain ⟨_, _, own⟩ := matched_right (checkAll_ok made.metrics) among
      have same : (t.source gs).SameEvents (t.source gs) := ⟨_, _, rfl⟩
      obtain ⟨_, _, pair⟩ := Source.metric_same same own
      exact metric_columns pair c read
  · obtain ⟨i, group, column, found, rfl⟩ := Source.groupColumns_read made.groups inside read
    rw [← Except.ok.inj found]
    unfold groupColumn
    split
    · exact Or.inl rfl
    · exact t.storedValue_reads _ _
  · rw [made.joins] at inside
    obtain ⟨i, field, rfl⟩ := mem_joinsFrom inside
    exact t.link_reads _ _ c read
  · exact (conditions_read made.conditions d inside).1 c read

namespace ParameterCopied

theorem events_extend (copied : t.ParameterCopied db db' front back row copy) (s : RowScope) :
    t.relation.extend db' s = t.relation.extend db s := by
  unfold Relation.extend
  rw [show t.relation.table = t.events.name from rfl, copied.events]

theorem events_followed (copied : t.ParameterCopied db db' front back row copy)
    (following : Following (RowScope.SameOn t.reads) Φ) :
    t.relation.Followed Φ t.reads db db' := by
  refine ⟨congrArg (Option.map Table.columns) copied.events, fun {s s'} same => ?_⟩
  rw [copied.events_extend]
  cases found : db.table? t.relation.table.text with
  | none =>
    rw [Relation.extend_missing found, Relation.extend_missing found]
    exact following.nil
  | some table =>
    rw [Relation.extend_found found, Relation.extend_found found]
    exact following.pairwise _ fun row _ => same.beside rfl fun _ _ _ => rfl

theorem rows_mirrored (copied : t.ParameterCopied db db' front back row copy) :
    Mirrors t.SameParameter (front ++ back) (front ++ copy :: back) := by
  constructor
  · intro own member
    refine ⟨own, ?_, fun _ _ => rfl⟩
    rcases List.mem_append.mp member with early | late
    · exact List.mem_append_left _ early
    · exact List.mem_append_right _ (List.mem_cons_of_mem _ late)
  · intro own member
    rcases List.mem_append.mp member with early | late
    · exact ⟨own, List.mem_append_left _ early, fun _ _ => rfl⟩
    · rcases List.mem_cons.mp late with rfl | later
      · exact ⟨row, copied.present, copied.same⟩
      · exact ⟨own, List.mem_append_right _ later, fun _ _ => rfl⟩

theorem rows_echoed (copied : t.ParameterCopied db db' front back row copy) (behind : row ∈ front) :
    Echoes t.SameParameter (front ++ back) (front ++ copy :: back) := by
  have same (rows : List TableRow) : Echoes t.SameParameter rows rows := by
    have own := (Following.of_echoes t.SameParameter).pairwise (f := id) (g := id) rows
      fun _ _ _ _ => rfl
    rwa [List.map_id] at own
  have put : Echoes t.SameParameter front (front ++ [copy]) :=
    (same front).behind (List.forall_mem_singleton.mpr ⟨row, behind, copied.same⟩)
  have all := put.append (same back)
  rwa [List.append_assoc] at all

theorem parameters_followed (copied : t.ParameterCopied db db' front back row copy)
    (stored : r.table = t.parameters.name) (other : r.name ≠ t.relation.name)
    (follows : ∀ {f g : TableRow → RowScope},
      (∀ own own', t.SameParameter own own' → (f own).SameOn t.reads (g own')) →
        Φ ((front ++ back).map f) ((front ++ copy :: back).map g)) :
    r.Followed Φ t.reads db db' := by
  obtain ⟨columns, found, found'⟩ := copied.parameters
  rw [← stored] at found found'
  refine ⟨by rw [found, found']; rfl, fun {s s'} same => ?_⟩
  rw [Relation.extend_found found, Relation.extend_found found']
  refine follows fun own own' alike => same.beside rfl fun c read named => ?_
  have inside : c.name ∈ t.parameters.columns :=
    read.resolve_left fun event => other (named.symm.trans event)
  exact congrArg some (alike c.name inside)

theorem relations_mirrored (copied : t.ParameterCopied db db' front back row copy)
    (made : (t.source gs).Makes p selection b) :
    ∀ r ∈ b.relations, r.Followed (Mirrors (RowScope.SameOn t.reads)) t.reads db db' := by
  intro r member
  rcases branch_relations made r member with rfl | ⟨stored, other⟩
  · exact copied.events_followed (Following.of_mirrors _)
  · exact copied.parameters_followed stored other copied.rows_mirrored.map

theorem relations_echoed (copied : t.ParameterCopied db db' front back row copy)
    (behind : row ∈ front) (made : (t.source gs).Makes p selection b) :
    ∀ r ∈ b.relations, r.Followed (Echoes (RowScope.SameOn t.reads)) t.reads db db' := by
  intro r member
  rcases branch_relations made r member with rfl | ⟨stored, other⟩
  · exact copied.events_followed (Following.of_echoes _)
  · exact copied.parameters_followed stored other (copied.rows_echoed behind).map

/-- A branch answers the same with a copy of a parameter behind its row; and with one elsewhere, if
rows of one group have equal keys. -/
theorem answer_same (copied : t.ParameterCopied db db' front back row copy)
    (made : (t.source gs).Makes p selection b)
    (placed : row ∈ front ∨ KeysTold ((b.views db).map fun v => (b.groupKey v, v))) :
    b.answer db = b.answer db' := by
  have read := branch_reads made
  have mirrored := copied.relations_mirrored made
  by_cases joined : t.joinsFrom 0 gs = []
  · refine Branch.answer_unjoined (made.joins.trans joined) ?_ mirrored read
    rw [made.relation]
    exact (copied.events_extend []).symm
  · have distinct : ∀ m ∈ b.metrics, m.count.distinct.isSome = true := by
      intro m member
      obtain ⟨_, _, own⟩ := matched_right (checkAll_ok made.metrics) member
      exact metric_distinct own joined
    rcases placed with behind | told
    · exact Branch.answer_echoed (copied.relations_echoed behind made) read distinct
    · exact Branch.answer_mirrored mirrored read distinct told

theorem series_same {statement : SeriesStatement}
    (copied : t.ParameterCopied db db' front back row copy)
    (built : (t.source gs).build p = .ok statement)
    (placed : row ∈ front ∨ ∀ b ∈ statement.branches,
      KeysTold ((b.views db).map fun v => (b.groupKey v, v))) :
    db.series? statement = db'.series? statement := by
  apply Database.series_congr
  · intro b member
    obtain ⟨_, _, made⟩ := matched_right (Source.built built) member
    exact Branch.knows_followed (copied.relations_mirrored made) b.columns
  · intro b member
    obtain ⟨_, _, made⟩ := matched_right (Source.built built) member
    exact copied.answer_same made (placed.imp_right fun told => told b member)

end ParameterCopied

end LongTable

end Analytics
