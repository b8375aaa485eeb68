import Analytics.Proofs.Query.Checks
import Analytics.Proofs.Store.Views

/-!
Sources of one table, in which each event is a row: the internal one, and those of wide tables. What
their branches count are rows of the table.
-/

namespace Analytics

theorem compile_plain {f : PlannedFilter} {column : StoredColumn Column} {c : Condition}
    (made : (Filter.compile f.type f.operator f.value column).map Condition.plain = .ok c) :
    c.isPlain = true := by
  obtain ⟨p, _, rfl⟩ := map_ok made
  rfl

namespace Source

structure IsRowwise (s : Source) : Prop where
  joins : s.joins = []
  eventId : s.eventId = none
  scope : ∀ c ∈ s.scope, c.isPlain = true
  filter : ∀ f c, s.filter f = .ok c → c.isPlain = true

theorem eventCondition_plain {s : Source} {p : QueryPlan} {c : Condition}
    (made : s.eventCondition p = .ok c) : c.isPlain = true := by
  unfold Source.eventCondition at made
  split at made
  · cases made
    rfl
  split at made
  · cases made
    rfl
  · cases made

theorem IsRowwise.single {s : Source} {p : QueryPlan} {selection : Selection} {b : Branch}
    (rowwise : s.IsRowwise) (made : s.Makes p selection b) : b.IsSingle := by
  obtain ⟨event, filters, known, filtered, confined⟩ := conditions_ok made.conditions
  refine ⟨made.joins.trans rowwise.joins, ?_⟩
  rw [confined]
  intro c member
  rcases List.mem_append.mp member with inside | later
  · exact rowwise.scope c inside
  rcases List.mem_cons.mp later with rfl | later
  · rfl
  rcases List.mem_cons.mp later with rfl | later
  · exact eventCondition_plain known
  · obtain ⟨f, _, made⟩ := matched_right (checkAll_ok filtered) later
    exact rowwise.filter f c made

end Source

namespace Internal

theorem filter_plain {f : PlannedFilter} {c : Condition} (made : Internal.filter f = .ok c) :
    c.isPlain = true := by
  unfold Internal.filter at made
  split at made
  · cases made
  · exact compile_plain made

theorem source_rowwise (website : String) : (source website).IsRowwise where
  joins := rfl
  eventId := rfl
  scope := List.forall_mem_singleton.mpr rfl
  filter _ _ := filter_plain

end Internal

namespace WideTable

theorem source_rowwise (t : WideTable) : t.source.IsRowwise where
  joins := rfl
  eventId := rfl
  scope _ member := absurd member List.not_mem_nil
  filter f c made := by
    change t.filter f = .ok c at made
    unfold WideTable.filter at made
    split at made
    · cases made
    · exact compile_plain made

end WideTable

namespace Resolved

/-- Whether the events of a request are the rows of one table. -/
def isRowwise : Resolved → Bool
  | .internal | .wide _ _ => true
  | .long _ _ => false

theorem source_rowwise {r : Resolved} (rowwise : r.isRowwise = true) (p : QueryPlan) :
    (r.source p).IsRowwise := by
  cases r with
  | internal => exact Internal.source_rowwise p.insightId
  | wide table store => exact WideTable.source_rowwise table
  | long table store => cases rowwise

end Resolved

end Analytics
