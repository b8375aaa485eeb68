import Analytics.Proofs.Series.Answers

/-!
Values of an answer. The value of a metric at a date and a combination is the sum over the result rows
that count there, branch after branch; series show these values, and where they show none it is zero.
-/

namespace Analytics

theorem mergeSort_filterMap {α β : Type} {le : α → α → Bool} {f : α → Option β} {as : List α}
    (trans : ∀ a b c, le a b = true → le b c = true → le a c = true)
    (total : ∀ a b, (le a b || le b a) = true)
    (tie : ∀ a ∈ as, ∀ b ∈ as, (f a).isSome = true → (f b).isSome = true → le a b = true) :
    (as.mergeSort le).filterMap f = as.filterMap f := by
  have chosen (bs : List α) : bs.filterMap f = (bs.filter fun a => (f a).isSome).filterMap f := by
    rw [List.filterMap_filter]
    refine List.filterMap_congr fun a _ => ?_
    cases f a <;> rfl
  have ordered : (as.filter fun a => (f a).isSome).Pairwise fun a b => le a b = true := by
    refine List.Pairwise.imp_of_mem ?_ (List.pairwise_of_forall fun _ _ => trivial)
    intro a b first second _
    obtain ⟨here, some⟩ := List.mem_filter.mp first
    obtain ⟨there, some'⟩ := List.mem_filter.mp second
    exact tie a here b there some some'
  have kept := (List.sublist_mergeSort trans total ordered List.filter_sublist).filter
    fun a => (f a).isSome
  simp only [List.filter_filter, Bool.and_self] at kept
  have long := (((List.mergeSort_perm as le).filter fun a => (f a).isSome).length_eq)
  rw [chosen, chosen as, kept.eq_of_length long.symm]

namespace QueryPlan

variable {p : QueryPlan} {rows : List ResultRow} {m : PlannedMetric} {key : List GroupValue}
  {date : String}

/-- The value of a metric at a date and in a combination, out of the rows of an answer. -/
def value (p : QueryPlan) (rows : List ResultRow) (m : PlannedMetric) (key : List GroupValue)
    (date : String) : Binary64 :=
  total m date ((rows.filterMap p.datedRow?).filter fun r => r.combinations.contains key)

def datesOf (p : QueryPlan) (rows : List ResultRow) : List String :=
  sortDistinct (fun a b => a < b) (p.buckets ++ (rows.filterMap p.datedRow?).map (·.date))

def keysOf (p : QueryPlan) (rows : List ResultRow) : List (List GroupValue) :=
  sortDistinct GroupValue.combinationBefore
    (p.knownCombinations ++ (rows.filterMap p.datedRow?).flatMap (·.combinations))

/-- The series that show the values of an answer, metric by metric. -/
def shown (p : QueryPlan) (rows : List ResultRow) : List Series :=
  p.metrics.flatMap fun m => (p.keysOf rows).map fun key =>
    ⟨p.seriesName m key, (p.datesOf rows).map fun date => ⟨date, p.value rows m key date⟩⟩

theorem seriesOfRows_ok {series : List Series} (made : p.seriesOfRows rows = .ok series) :
    series = p.shown rows := by
  unfold seriesOfRows at made
  dsimp only at made
  split at made
  · cases made
  · exact (Except.ok.inj made).symm

theorem value_placed (p : QueryPlan) (rows : List ResultRow) (m : PlannedMetric)
    (key : List GroupValue) (date : String) : p.value rows m key date =
      ((rows.filterMap (p.placed? date key)).map fun r =>
        ResultValue.number (ResultRow.cell r.row m.title.text)).foldl Binary64.add .zero := by
  rw [value, total_placed, List.foldl_map]

theorem value_absent (outside : key ∉ p.keysOf rows ∨ date ∉ p.datesOf rows) :
    p.value rows m key date = .zero := by
  have none : rows.filterMap (p.placed? date key) = [] := by
    rw [List.filterMap_eq_nil_iff]
    intro row member
    rw [Option.eq_none_iff_forall_ne_some]
    intro r placed
    obtain ⟨dated, inside, rfl⟩ := placed_iff.mp placed
    have known : r ∈ rows.filterMap p.datedRow? := List.mem_filterMap.mpr ⟨row, member, dated⟩
    rcases outside with absent | absent
    · exact absent (mem_sortDistinct.mpr (List.mem_append_right _
        (List.mem_flatMap.mpr ⟨r, known, inside⟩)))
    · exact absent (mem_sortDistinct.mpr (List.mem_append_right _
        (List.mem_map.mpr ⟨r, known, rfl⟩)))
  rw [value_placed, none]
  rfl

/-- What the series of an answer show of a metric: nothing, which is zero, where there is no series of
the combination or no such date. -/
def valueShown (p : QueryPlan) (rows : List ResultRow) (m : PlannedMetric) (key : List GroupValue)
    (date : String) : Binary64 :=
  if key ∈ p.keysOf rows ∧ date ∈ p.datesOf rows then p.value rows m key date else .zero

theorem valueShown_eq (p : QueryPlan) (rows : List ResultRow) (m : PlannedMetric)
    (key : List GroupValue) (date : String) :
    p.valueShown rows m key date = p.value rows m key date := by
  unfold valueShown
  split
  · rfl
  · rename_i outside
    exact (value_absent (not_and_or.mp outside)).symm

theorem placed_date {row : ResultRow} (counted : (p.placed? date key row).isSome = true) :
    ResultValue.label? (ResultRow.cell row dateColumnName) = some date := by
  obtain ⟨r, placed⟩ := Option.isSome_iff_exists.mp counted
  obtain ⟨dated, _, rfl⟩ := placed_iff.mp placed
  obtain ⟨date, labelled, rfl⟩ := Option.map_eq_some_iff.mp dated
  exact labelled

end QueryPlan

namespace Source

variable {s : Source} {p : QueryPlan} {selection : Selection} {b : Branch} {date : String}
  {key : List GroupValue} {db : Database}

theorem answer_date (made : s.Makes p selection b) (told : p.IsTold) {row : Cell × ResultRow}
    (member : row ∈ b.answer db) (counted : (p.placed? date key row.2).isSome = true) :
    row.1 = .text date := by
  rw [Branch.answer_views] at member
  obtain ⟨group, _, shown⟩ := List.mem_filterMap.mp member
  obtain ⟨first, _, rfl⟩ := Option.map_eq_some_iff.mp shown
  have labelled := QueryPlan.placed_date counted
  rw [Branch.resultRow_date first group.2 made told] at labelled
  rcases label_cases b.label first with none | ⟨text, label⟩
  · rw [none] at labelled
    cases labelled
  · rw [label] at labelled
    rw [label, ← Option.some.inj labelled]

theorem placed_branches {statement : SeriesStatement} {rows : List ResultRow}
    (built : s.build p = .ok statement) (told : p.IsTold)
    (answered : db.series? statement = some rows) :
    rows.filterMap (p.placed? date key) = statement.branches.flatMap fun b =>
      ((b.answer db).map (·.2)).filterMap (p.placed? date key) := by
  unfold Database.series? at answered
  split at answered
  · cases answered
    -- Rows are sorted by their labels: those that count at one date tie and keep their order.
    rw [List.filterMap_map, mergeSort_filterMap, ← List.filterMap_map, List.map_flatMap,
      List.filterMap_flatMap]
    · intro x y z first second
      exact decide_eq_true (Cell.order_trans (of_decide_eq_true first) (of_decide_eq_true second))
    · intro x y
      rw [Bool.or_eq_true, decide_eq_true_iff, decide_eq_true_iff]
      exact Cell.order_total x.1 y.1
    · have dated {row : Cell × ResultRow}
          (member : row ∈ statement.branches.flatMap (Branch.answer db))
          (counted : (p.placed? date key row.2).isSome = true) : row.1 = .text date := by
        obtain ⟨b, inside, among⟩ := List.mem_flatMap.mp member
        obtain ⟨_, _, made⟩ := matched_right (Source.built built) inside
        exact answer_date made told among counted
      intro row member other among here there
      have tie : Cell.order (.text date) (.text date) = .eq :=
        of_decide_eq_true (Cell.same_self _)
      rw [dated member here, dated among there, tie]
      rfl
  · cases answered

/-- The numbers that a branch's result rows add to the sum of a metric, at a date and in a
combination. -/
def items (p : QueryPlan) (m : PlannedMetric) (b : Branch) (views : List (RowView Column))
    (date : String) (key : List GroupValue) : List Binary64 :=
  (((b.answerOf views).map (·.2)).filterMap (p.placed? date key)).map fun r =>
    ResultValue.number (ResultRow.cell r.row m.title.text)

theorem value_items {statement : SeriesStatement} {rows : List ResultRow}
    (built : s.build p = .ok statement) (told : p.IsTold) (answered : db.series? statement = some rows)
    (m : PlannedMetric) :
    p.value rows m key date = (statement.branches.flatMap fun b =>
      items p m b (b.views db) date key).foldl Binary64.add .zero := by
  rw [QueryPlan.value_placed, placed_branches built told answered, List.map_flatMap]
  unfold items
  simp only [Branch.answer_views]

end Source

namespace Engine

variable {w : World} {e e' : Engine} {q : InsightQuery} {series : List Series}

theorem query_ok (done : e.query w q = (.ok series, e')) : ∃ prepared rows,
    e.prepare w q = (.ok prepared, e') ∧
      (prepared.database w).series? prepared.statement = some rows ∧
        series = prepared.plan.shown rows := by
  unfold query at done
  split at done
  · cases done
  · rename_i prepared e'' made
    obtain ⟨ran, rfl⟩ := Prod.mk.inj done
    rw [run_eq] at ran
    split at ran
    · rename_i rows answered
      exact ⟨prepared, rows, made, answered, QueryPlan.seriesOfRows_ok ran⟩
    · cases ran

theorem query_rows {prepared : Prepared} (made : e.prepare w q = (.ok prepared, e'))
    (done : e.query w q = (.ok series, e')) : ∃ rows,
      (prepared.database w).series? prepared.statement = some rows ∧
        series = prepared.plan.shown rows := by
  obtain ⟨own, rows, made', answered, shown⟩ := query_ok done
  cases made'.symm.trans made
  exact ⟨rows, answered, shown⟩

theorem query_answered {prepared : Prepared} {rows : List ResultRow}
    (made : e.prepare w q = (.ok prepared, e'))
    (answered : (prepared.database w).series? prepared.statement = some rows) :
    e.query w q = (.ok (prepared.plan.shown rows), e') := by
  obtain ⟨planned, _, built⟩ := prepare_ok made
  have known := Source.answer_known (InsightQuery.passes planned) built answered
  have series : prepared.plan.seriesOfRows rows = .ok (prepared.plan.shown rows) := by
    unfold QueryPlan.seriesOfRows
    dsimp only
    rw [known, if_neg Bool.false_ne_true]
    rfl
  unfold query
  rw [made]
  dsimp only
  rw [run_eq, answered]
  exact congrArg (·, e') series

end Engine

theorem Database.series_some {db : Database} {statement : SeriesStatement}
    (runs : db.runs statement = true) : ∃ rows, db.series? statement = some rows :=
  ⟨_, if_pos runs⟩

theorem Database.runs_single {db : Database} {b : Branch} :
    db.runs ⟨[b]⟩ = true ↔ db.knows b.relations b.columns = true := by
  simp [runs, maxBranches]

theorem Database.series_runs {db : Database} {statement : SeriesStatement} {rows : List ResultRow}
    (answered : db.series? statement = some rows) : db.runs statement = true := by
  unfold series? at answered
  split at answered
  · assumption
  · cases answered

end Analytics
