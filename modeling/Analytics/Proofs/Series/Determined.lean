import Analytics.Proofs.Series.Ledgers
import Analytics.Proofs.Text.Bytes

/-!
What series are made of rows. Main statement: the buckets and the rows of a request determine its series,
down to their order, their names and the order in which values are summed; reading row after row into a
ledger makes the same series.
-/

namespace Analytics

namespace GroupValue

def Precedes : GroupValue → GroupValue → Prop
  | bucket i, bucket j => i < j
  | bucket _, label _ => True
  | label _, bucket _ => False
  | label s, label t => Text.bytes s < Text.bytes t

theorem before_iff {a b : GroupValue} : a.before b = true ↔ a.Precedes b := by
  cases a with
  | bucket i => cases b <;> simp [before, Precedes]
  | label s =>
    cases b with
    | bucket j => simp [before, Precedes]
    | label t =>
      exact decide_eq_true_iff.trans (Text.bytes_lt_iff s t).symm

theorem combinationBefore_iff {k l : List GroupValue} :
    combinationBefore k l = true ↔ List.Lex Precedes k l := by
  induction k generalizing l with
  | nil =>
    cases l with
    | nil => exact iff_of_false Bool.false_ne_true nofun
    | cons b bs => exact iff_of_true rfl .nil
  | cons a as ih =>
    cases l with
    | nil => exact iff_of_false Bool.false_ne_true nofun
    | cons b bs =>
      rw [combinationBefore, Bool.or_eq_true, Bool.and_eq_true, decide_eq_true_eq, before_iff, ih]
      constructor
      · rintro (first | ⟨rfl, later⟩)
        · exact .rel first
        · exact .cons later
      · rintro (_ | first | later)
        · exact .inl first
        · exact .inr ⟨rfl, later⟩

end GroupValue

namespace QueryPlan

variable {p : QueryPlan} {rows : List ResultRow}

/-- What dates and combinations the series of some rows have, and in which order. -/
structure Spans (p : QueryPlan) (rows : List ResultRow) (dates : List String)
    (keys : List (List GroupValue)) : Prop where
  datesOrdered : dates.Pairwise fun d e => Text.bytes d < Text.bytes e
  dates : ∀ date, date ∈ dates ↔
    date ∈ p.buckets ∨ ∃ row ∈ rows, ResultRow.date? row = some date
  keysOrdered : keys.Pairwise (List.Lex GroupValue.Precedes)
  keys : ∀ key, key ∈ keys ↔ ((∀ g ∈ p.groups, g.isCustom = true) ∧ p.Offers key) ∨
    ∃ row ∈ rows, (ResultRow.date? row).isSome = true ∧ p.Selects row key

theorem spans (p : QueryPlan) (rows : List ResultRow) :
    p.Spans rows (p.datesOf rows) (p.keysOf rows) where
  datesOrdered := (sortDistinct_sorted text_strict _).imp fun {d e} before =>
    (Text.bytes_lt_iff d e).mpr (of_decide_eq_true before)
  dates _ := mem_datesOf
  keysOrdered := (sortDistinct_sorted GroupValue.combination_strict _).imp
    GroupValue.combinationBefore_iff.mp
  keys _ := mem_keysOf

/-- A series for each metric and combination, named by its parts and dense in the dates. A value is the sum
from zero of the metric's numbers in the rows of the point, in their order. -/
def seriesOver (p : QueryPlan) (rows : List ResultRow) (dates : List String)
    (keys : List (List GroupValue)) : List Series :=
  p.metrics.flatMap fun m => keys.map fun key =>
    ⟨String.intercalate "-" (p.nameParts m key), dates.map fun date =>
      ⟨date, (p.numbersAt rows m key date).foldl Binary64.add .zero⟩⟩

theorem Spans.determined {dates : List String} {keys : List (List GroupValue)}
    (spans : p.Spans rows dates keys) : dates = p.datesOf rows ∧ keys = p.keysOf rows := by
  have own := p.spans rows
  have before {dates : List String} (ordered : dates.Pairwise fun d e => Text.bytes d < Text.bytes e) :
      dates.Pairwise fun d e => decide (d < e) = true :=
    ordered.imp fun {d e} less => decide_eq_true ((Text.bytes_lt_iff d e).mp less)
  constructor
  · apply text_strict.eq_of_sorted (before spans.datesOrdered) (before own.datesOrdered)
    exact fun date => (spans.dates date).trans (own.dates date).symm
  · apply GroupValue.combination_strict.eq_of_sorted
      (spans.keysOrdered.imp GroupValue.combinationBefore_iff.mpr)
      (own.keysOrdered.imp GroupValue.combinationBefore_iff.mpr)
    exact fun key => (spans.keys key).trans (own.keys key).symm

theorem shown_eq (p : QueryPlan) (rows : List ResultRow) :
    p.shown rows = p.seriesOver rows (p.datesOf rows) (p.keysOf rows) := by
  unfold shown seriesOver
  simp only [seriesName_eq, value_eq]

theorem refuses_eq {q : InsightQuery} {limit : Nat} (passes : q.Passes limit p) (column : String) :
    p.refuses column = p.isStray column := by
  unfold refuses isStray
  congr 1
  by_cases own : column ∈ p.groupTitles
  · have key := passes.decoded column own
    rw [Option.isNone_eq_false_iff.mpr key, Bool.false_or]
  · have foreign : p.groupTitles.contains column = false := by
      rw [List.contains_eq_mem, decide_eq_false own]
    rw [foreign, Bool.not_false, Bool.or_true]

theorem bars_iff {q : InsightQuery} {limit : Nat} (passes : q.Passes limit p) :
    (∃ row ∈ rows, Ledger.Bars p row) ↔ p.Strays rows := by
  unfold Ledger.Bars Strays
  simp only [refuses_eq passes, isStray_iff]

theorem postedSeries_eq {q : InsightQuery} {limit : Nat} (passes : q.Passes limit p)
    (rows : List ResultRow) : p.postedSeries rows = p.seriesOfRows rows := by
  unfold postedSeries
  by_cases strays : p.Strays rows
  · rw [Ledger.readAll_barred _ ((bars_iff passes).mpr strays), seriesOfRows_strays strays]
    rfl
  · have free : ∀ row ∈ rows, ¬Ledger.Bars p row := fun row member bars =>
      strays ((bars_iff passes).mp ⟨row, member, bars⟩)
    obtain ⟨l, done, holds⟩ := Ledger.readAll_holds (Ledger.opening_holds p) free
    rw [List.nil_append] at holds
    rw [done, seriesOfRows_shown strays, ← holds.series_eq]
    rfl

end QueryPlan

instance (p : QueryPlan) (rows : List ResultRow) : Decidable (p.Strays rows) :=
  inferInstanceAs (Decidable (∃ row ∈ rows, (ResultRow.date? row).isSome = true ∧
    ∃ column ∈ row.map (·.1), isMarked column = true ∧ column ∉ p.groupTitles))

/-- Series are made out of rows unless a dated row has a stray column; the rows then determine the dates
and combinations that there are series over. Reading row after row makes the same. -/
theorem series_determined {q : InsightQuery} {limit : Nat} {p : QueryPlan}
    (planned : q.plan limit = .ok p) (rows : List ResultRow) :
    p.postedSeries rows = p.seriesOfRows rows ∧
    (p.Strays rows → p.seriesOfRows rows = .error .internal) ∧
    (¬p.Strays rows → ∃ dates keys, p.Spans rows dates keys ∧
      p.seriesOfRows rows = .ok (p.seriesOver rows dates keys)) := by
  refine ⟨QueryPlan.postedSeries_eq (InsightQuery.passes planned) rows,
    QueryPlan.seriesOfRows_strays, fun known => ?_⟩
  refine ⟨p.datesOf rows, p.keysOf rows, p.spans rows, ?_⟩
  rw [QueryPlan.seriesOfRows_shown known, QueryPlan.shown_eq]

def sampleResultRows : List ResultRow :=
  [[("date", .text "1970-01-02"), ("visit", .int 2), ("%os", .text "b"), ("%city|equals|Graz", .int 1),
      ("%city|contains|r", .int 1)],
    [("date", .text "1970-01-01"), ("visit", .int 5), ("%os", .null), ("%city|equals|Graz", .int 0)],
    [("date", .text "1970-01-02"), ("visit", .int 3), ("%os", .text "b"), ("%city|contains|r", .int 1)],
    [("date", .null), ("visit", .int 7), ("%stray", .int 1)]]

theorem series_determined_sample : ∃ p dates keys, sampleRequest.plan 10 = .ok p ∧
    ¬p.Strays sampleResultRows ∧ p.Spans sampleResultRows dates keys ∧
      p.postedSeries sampleResultRows = p.seriesOfRows sampleResultRows ∧
      p.seriesOfRows sampleResultRows = .ok (p.seriesOver sampleResultRows dates keys) := by
  obtain ⟨p, _, planned, _⟩ := sampleRequest_builds
  have free : ((sampleRequest.plan 10).toOption.all fun p => ¬p.Strays sampleResultRows) = true := by
    decide +kernel
  rw [planned] at free
  have known := of_decide_eq_true free
  obtain ⟨posted, _, shown⟩ := series_determined planned sampleResultRows
  obtain ⟨dates, keys, spans, made⟩ := shown known
  exact ⟨p, dates, keys, planned, known, spans, posted, made⟩

/-- The two cities have a series each, and so has either metric; the second row shows its date only, and
the first and the third one meet at a point. -/
example : ((sampleRequest.plan 10).toOption.bind fun p =>
    ((p.seriesOfRows sampleResultRows).toOption).map fun all => all.map fun s =>
      (s.name, s.data)) = some [
    ("visit-b-equals Graz", [⟨"1970-01-01", .ofInt 0⟩, ⟨"1970-01-02", .ofInt 2⟩]),
    ("visit-b-contains r", [⟨"1970-01-01", .ofInt 0⟩, ⟨"1970-01-02", .ofInt 5⟩]),
    ("$all_event-b-equals Graz", [⟨"1970-01-01", .ofInt 0⟩, ⟨"1970-01-02", .ofInt 0⟩]),
    ("$all_event-b-contains r", [⟨"1970-01-01", .ofInt 0⟩, ⟨"1970-01-02", .ofInt 0⟩])] := by
  decide +kernel

end Analytics
