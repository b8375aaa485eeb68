import Analytics.Proofs.Number.Whole
import Analytics.Proofs.Series.Determined

/-!
Rows in any order. Dates, combinations and names are told by which rows there are; a sum depends on the
order of its rows only as far as it is rounded. Main statement: result rows that hold whole numbers, added
up without rounding, make the same series in whatever order they come.
-/

namespace Analytics

namespace QueryPlan

variable {p : QueryPlan} {rows rows' : List ResultRow} {m : PlannedMetric} {key : List GroupValue}
  {date : String}

/-- Whether the metrics' cells are whole numbers that are added up, at every point and in the order of the
rows, without rounding. -/
def SumsKept (p : QueryPlan) (rows : List ResultRow) : Prop :=
  ∀ m ∈ p.metrics, ∀ key date, ∃ is : List Int,
    p.numbersAt rows m key date = is.map Binary64.ofInt ∧ Binary64.SumsKept is

theorem strays_perm (same : rows.Perm rows') : p.Strays rows ↔ p.Strays rows' := by
  unfold Strays
  simp only [same.mem_iff]

theorem datesOf_perm (same : rows.Perm rows') : p.datesOf rows = p.datesOf rows' := by
  apply text_strict.eq_of_sorted (sortDistinct_sorted text_strict _)
    (sortDistinct_sorted text_strict _)
  intro date
  change date ∈ p.datesOf rows ↔ date ∈ p.datesOf rows'
  simp only [mem_datesOf, same.mem_iff]

theorem keysOf_perm (same : rows.Perm rows') : p.keysOf rows = p.keysOf rows' := by
  apply GroupValue.combination_strict.eq_of_sorted (sortDistinct_sorted GroupValue.combination_strict _)
    (sortDistinct_sorted GroupValue.combination_strict _)
  intro key
  change key ∈ p.keysOf rows ↔ key ∈ p.keysOf rows'
  simp only [mem_keysOf, same.mem_iff]

theorem numbersAt_perm (same : rows.Perm rows') :
    (p.numbersAt rows m key date).Perm (p.numbersAt rows' m key date) :=
  (same.filter _).map _

theorem value_perm (same : rows.Perm rows') (kept : p.SumsKept rows) (kept' : p.SumsKept rows')
    (member : m ∈ p.metrics) : p.value rows m key date = p.value rows' m key date := by
  obtain ⟨is, numbers, sums⟩ := kept m member key date
  obtain ⟨js, numbers', sums'⟩ := kept' m member key date
  have items : (p.numbersAt rows m key date).Perm (p.numbersAt rows' m key date) :=
    numbersAt_perm same
  rw [numbers, numbers'] at items
  rw [value_eq, value_eq, numbers, numbers']
  exact Binary64.sum_kept_perm sums sums' items

theorem shown_perm (same : rows.Perm rows') (kept : p.SumsKept rows) (kept' : p.SumsKept rows') :
    p.shown rows = p.shown rows' := by
  unfold shown
  rw [keysOf_perm same, datesOf_perm same]
  apply List.flatMap_congr
  intro m member
  apply List.map_congr_left
  intro key _
  simp only [value_perm same kept kept' member]

theorem sumsKept_small (count : PlannedMetric → ResultRow → Int)
    (cells : ∀ m ∈ p.metrics, ∀ row ∈ rows,
      ResultValue.number (ResultRow.cell row m.title.text) = .ofInt (count m row))
    (small : ∀ m ∈ p.metrics, (rows.map fun row => (count m row).natAbs).sum < 2 ^ 53) :
    p.SumsKept rows := by
  intro m member key date
  have within : (p.rowsAt rows key date).Sublist rows := List.filter_sublist
  refine ⟨(p.rowsAt rows key date).map (count m), ?_, Binary64.sumsKept_small ?_⟩
  · unfold numbersAt
    rw [List.map_map]
    exact List.map_congr_left fun row inside => cells m member row (within.subset inside)
  · rw [List.map_map]
    exact lt_of_le_of_lt ((within.map _).sum_le_sum fun _ _ => Nat.zero_le _) (small m member)

end QueryPlan

/-- Rows in another order make the same series, or fail as well. -/
theorem order_ignored {p : QueryPlan} {rows rows' : List ResultRow} (same : rows.Perm rows')
    (kept : p.SumsKept rows) (kept' : p.SumsKept rows') :
    p.seriesOfRows rows = p.seriesOfRows rows' := by
  by_cases strays : p.Strays rows
  · rw [QueryPlan.seriesOfRows_strays strays,
      QueryPlan.seriesOfRows_strays ((QueryPlan.strays_perm same).mp strays)]
  · rw [QueryPlan.seriesOfRows_shown strays,
      QueryPlan.seriesOfRows_shown fun other => strays ((QueryPlan.strays_perm same).mpr other),
      QueryPlan.shown_perm same kept kept']

def sampleCount (m : PlannedMetric) (row : ResultRow) : Int :=
  match ResultRow.cell row m.title.text with
  | .int i => i
  | _ => 0

theorem sampleCount_kept {p : QueryPlan} (planned : sampleRequest.plan 10 = .ok p)
    {rows : List ResultRow} (same : sampleResultRows.Perm rows) : p.SumsKept rows := by
  have read : ((sampleRequest.plan 10).toOption.all fun p => p.metrics.all fun m =>
      (sampleResultRows.all fun row => ResultValue.number (ResultRow.cell row m.title.text)
          = .ofInt (sampleCount m row)) &&
        (sampleResultRows.map fun row => (sampleCount m row).natAbs).sum < 2 ^ 53) = true := by
    decide +kernel
  rw [planned] at read
  have each := List.all_eq_true.mp read
  apply QueryPlan.sumsKept_small sampleCount
  · intro m member row inside
    have cells := (Bool.and_eq_true _ _ ▸ each m member).1
    exact of_decide_eq_true (List.all_eq_true.mp cells row (same.mem_iff.mpr inside))
  · intro m member
    rw [← (same.map _).sum_eq]
    exact of_decide_eq_true (Bool.and_eq_true _ _ ▸ each m member).2

theorem order_ignored_sample : ∃ p, sampleRequest.plan 10 = .ok p ∧
    sampleResultRows.Perm sampleResultRows.reverse ∧ p.SumsKept sampleResultRows ∧
      p.SumsKept sampleResultRows.reverse ∧
      p.seriesOfRows sampleResultRows = p.seriesOfRows sampleResultRows.reverse := by
  obtain ⟨p, _, planned, _⟩ := sampleRequest_builds
  have same : sampleResultRows.Perm sampleResultRows.reverse := (List.reverse_perm _).symm
  have kept := sampleCount_kept planned (List.Perm.refl _)
  have kept' := sampleCount_kept planned same
  exact ⟨p, planned, same, kept, kept', order_ignored same kept kept'⟩

end Analytics
