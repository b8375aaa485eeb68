import Analytics.Proofs.Query.Checks
import Analytics.Proofs.Store.Compiled
import Analytics.Proofs.Store.Joined

/-!
Parameters of long tables. A bucket on a parameter joins the rows of parameters and a filter on it asks
for one of them; both read them by the same link and the same predicate, each under its own name.
-/

namespace Analytics

theorem DateSource.range_columns (s : DateSource Column) (w : Window) :
    ∀ c ∈ (s.range w).columns, c = (s.chosen w).1 := by
  unfold range TimeRange.predicate
  generalize (s.chosen w).2 = encoding
  intro c member
  cases encoding <;>
    simpa [TimeRange.halfOpen, Predicate.columns, Scalar.columns] using member

namespace LongTable

variable {t : LongTable} {db : Database} {s : RowScope} {r r' : Relation}

def hasParameter (t : LongTable) (db : Database) (field : String) (s : RowScope) : Bool :=
  (Condition.linked t.filterRelation (t.link t.filterRelation field) .always).holds db s

def idOf (t : LongTable) (s : RowScope) : Cell := s.view.cell (t.ofEvent t.events.id)

/-- Whether no two events have the same id; an event may have none. -/
def idsApart (t : LongTable) (db : Database) : Bool :=
  decide ((((t.relation.extend db []).map t.idOf).filter fun c => !c.isNull).Pairwise
    fun c d => Cell.same c d = false)

theorem groupRelation_name (name : Ident) (other : name.text.toList.head? ≠ some 'g') (t : LongTable)
    (index : Nat) : name ≠ (t.groupRelation index).name := by
  rintro rfl
  refine other ?_
  change ("g" ++ toString index).toList.head? = some 'g'
  rw [String.toList_append]
  rfl

theorem event_apart (t : LongTable) (index : Nat) : t.relation.name ≠ (t.groupRelation index).name :=
  groupRelation_name Source.eventRows (by decide) t index

theorem filter_apart (t : LongTable) (index : Nat) :
    t.filterRelation.name ≠ (t.groupRelation index).name :=
  groupRelation_name ⟨"p", rfl⟩ (by decide) t index

theorem event_unfiltered (t : LongTable) : t.relation.name ≠ t.filterRelation.name := fun same =>
  absurd (congrArg Ident.text same) (by decide : "e" ≠ "p")

theorem storedValue_rename (t : LongTable) (r r' : Relation) (type : ValueType) :
    t.storedValue r' type = (t.storedValue r type).map (r.rename r') := by
  have column (name : Ident) (storage : Storage) : (⟨r'.column name, storage⟩ : StoredColumn Column)
      = StoredColumn.map (r.rename r') ⟨r.column name, storage⟩ :=
    congrArg (StoredColumn.mk · storage) (r.rename_column r' name).symm
  unfold storedValue
  cases type with
  | number => cases t.parameters.number <;> exact column _ _
  | date => cases t.parameters.date <;> exact column _ _
  | string => cases t.parameters.text <;> exact column _ _
  | other => cases t.parameters.text <;> exact column _ _

theorem storedValue_relation (t : LongTable) (r : Relation) (type : ValueType) :
    (t.storedValue r type).ref.relation = r.name := by
  unfold storedValue
  cases type with
  | number => cases t.parameters.number <;> rfl
  | date => cases t.parameters.date <;> rfl
  | string => cases t.parameters.text <;> rfl
  | other => cases t.parameters.text <;> rfl

theorem link_rename (other : t.relation.name ≠ r.name) (r' : Relation) (field : String) :
    t.link r' field = (t.link r field).map (r.rename r') := by
  have id : r.rename r' (t.ofEvent t.events.id) = t.ofEvent t.events.id :=
    Relation.rename_other other
  simp only [link, Predicate.map, Scalar.map, Relation.rename_column, id]

theorem link_columns (t : LongTable) (r : Relation) (field : String) :
    ∀ c ∈ (t.link r field).columns, c.relation = r.name ∨ c.relation = t.relation.name := by
  intro c member
  simp only [link, Predicate.columns, Scalar.columns, List.mem_append, List.mem_singleton,
    List.not_mem_nil, or_false] at member
  rcases member with (rfl | rfl) | rfl
  · exact Or.inl rfl
  · exact Or.inr rfl
  · exact Or.inl rfl

theorem link_apart (t : LongTable) (index : Nat) (field : String) :
    ∀ c ∈ (t.link (t.groupRelation index) field).columns, c.relation ≠ t.filterRelation.name := by
  intro c member
  rcases t.link_columns _ _ c member with own | other
  · rw [own]
    exact (t.filter_apart index).symm
  · rw [other]
    exact t.event_unfiltered

/-- Where a row of nulls satisfies an operator's predicate, and the operator is not a test for null of
an event without the parameter, there are rows of the parameter. -/
theorem null_linked {type : ValueType} {op : FilterOperator} {value : Json} {pred : Predicate Column}
    {index : Nat} {field : String} {table : Table}
    (compiled : Filter.compile type op value (t.storedValue (t.groupRelation index) type) = .ok pred)
    (listed : Filter.itemsOf value ≠ .ok [])
    (missing : op = .isNull → t.hasParameter db field s = true)
    (null : (pred.eval (RowScope.view (⟨(t.groupRelation index).name, table, none⟩ :: s))).holds
      = true) :
    (Condition.linked (t.groupRelation index) (t.link (t.groupRelation index) field) .always).holds
      db s = true := by
  have cell : (RowScope.view (⟨(t.groupRelation index).name, table, none⟩ :: s)).cell
      (t.storedValue (t.groupRelation index) type).ref = .null := by
    have own := RowScope.find_own ⟨(t.groupRelation index).name, table, none⟩ s
    dsimp only at own
    simp only [RowScope.view, storedValue_relation, own, Option.bind_some]
  rcases Filter.compile_null compiled cell null with test | ⟨_, empty⟩
  · have present := missing test
    unfold hasParameter at present
    rw [link_rename (t.event_apart index)] at present
    have apart : ∀ c ∈ (t.link (t.groupRelation index) field).columns ++ Predicate.always.columns,
        c.relation ≠ t.filterRelation.name := by
      rw [Predicate.columns, List.append_nil]
      exact t.link_apart index field
    have table : t.filterRelation.table = (t.groupRelation index).table := rfl
    exact (Condition.linked_rename table apart db s).symm.trans present
  · exact absurd empty listed

theorem link_id {v : RowView Column} {field : String}
    (linked : ((t.link r field).eval v).holds = true) :
    (v.cell (t.ofEvent t.events.id)).isNull = false := by
  cases null : (v.cell (t.ofEvent t.events.id)).isNull with
  | false => rfl
  | true =>
    have first : (Predicate.compare .equal (.column (r.column t.parameters.eventId))
        (.column (t.ofEvent t.events.id))).eval v = .unknown :=
      if_pos (by simp only [Scalar.eval, null, Bool.or_true])
    simp only [link, Predicate.eval] at linked first
    rw [first] at linked
    generalize compareCells _ _ _ _ = named at linked
    cases named <;> cases linked

theorem linked_id {field : String} {p : Predicate Column}
    (holds : (Condition.linked t.filterRelation (t.link t.filterRelation field) p).holds db s = true) :
    (s.view.cell (t.ofEvent t.events.id)).isNull = false := by
  obtain ⟨beside, member, both⟩ := List.any_eq_true.mp holds
  have id := link_id (Bool.and_eq_true_iff.mp both).1
  cases found : db.table? t.filterRelation.table.text with
  | none =>
    rw [Relation.extend_missing found] at member
    cases member
  | some table =>
    rw [Relation.extend_found found] at member
    obtain ⟨row, _, rfl⟩ := List.mem_map.mp member
    have same : s.view.SameIn (RowScope.view (⟨t.filterRelation.name, table, some row⟩ :: s))
        (t.ofEvent t.events.id) := RowScope.view_congr (RowScope.find_beside t.event_unfiltered)
    rw [same.1] at id
    exact id

section

variable {gs : List GroupPlan}

theorem dates_relation (t : LongTable) (gs : List GroupPlan) (w : Window) :
    ((t.source gs).dates.chosen w).1.relation = t.relation.name := by
  change (DateSource.chosen ⟨t.ofEvent t.events.createdAt, t.events.encoding,
    t.events.date.map t.ofEvent, t.events.dateZone⟩ w).1.relation = _
  unfold DateSource.chosen
  cases t.events.date with
  | none => rfl
  | some date =>
    simp only [Option.map_some]
    split <;> rfl

theorem filter_avoids {f : PlannedFilter} {c : Condition} (made : t.filter f = .ok c)
    (index : Nat) : c.Avoids (t.groupRelation index).name := by
  unfold filter at made
  split at made
  · obtain ⟨p, compiled, rfl⟩ := map_ok made
    intro c member
    rw [Filter.compile_columns compiled c member]
    exact t.event_apart index
  · obtain ⟨p, compiled, rfl⟩ := map_ok made
    refine ⟨t.filter_apart index, fun c member => ?_⟩
    rcases List.mem_append.mp member with early | late
    · rcases t.link_columns _ _ c early with own | event
      · rw [own]
        exact t.filter_apart index
      · rw [event]
        exact t.event_apart index
    · rw [Filter.compile_columns compiled c late, storedValue_relation]
      exact t.filter_apart index

theorem conditions_avoid {p : QueryPlan} {cs : List Condition}
    (made : (t.source gs).conditions p = .ok cs) (index : Nat) :
    ∀ c ∈ cs, c.Avoids (t.groupRelation index).name := by
  obtain ⟨event, filters, known, filtered, rfl⟩ := Source.conditions_ok made
  refine List.forall_mem_cons.mpr ⟨?_, List.forall_mem_cons.mpr ⟨?_, ?_⟩⟩
  · intro c member
    rw [DateSource.range_columns _ _ c member, dates_relation]
    exact t.event_apart index
  · unfold Source.eventCondition at known
    split at known
    · cases known
      exact fun c member => absurd member List.not_mem_nil
    · cases known
      intro c member
      have own : c = t.eventName := by
        simpa [Predicate.columns, Scalar.columns, List.flatMap_map] using member
      rw [own]
      exact t.event_apart index
  · intro c member
    obtain ⟨f, _, made⟩ := matched_right (checkAll_ok filtered) member
    exact filter_avoids made index

end

end LongTable

end Analytics
