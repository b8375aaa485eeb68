import Analytics.Proofs.Series.Alone
import Analytics.Proofs.Series.Buckets
import Analytics.Proofs.Source.Copied

/-!
Repeated parameters. What is counted in a long table are events, however many rows of parameters
stand beside them. Main statement: an answer is the same with a further copy of a row of parameters,
whatever the request counts, filters and groups. A copy in front of its row may be what a group of
numbers of one size shows.
-/

namespace Analytics.Engine

variable {w w' : World} {e : Engine} {q : InsightQuery}

theorem prepare_stores (opens : w'.canOpen = w.canOpen) : e.prepare w' q = e.prepare w q := by
  unfold prepare locate
  rw [opens]

/-- A further copy of a row of parameters leaves the answer to every request on a long table as it
was, if it stands behind its row, as an inserted one does. One in front of its row does so where the
store puts no rows with different group values into one group, as a group shows what comes first. -/
theorem copies_ignored {t : LongTable} {store : StoreLocation} {front back : List TableRow}
    {row copy : TableRow}
    (found : (e.registry.resolve w.canOpen q.insightId q.insightType).1 = .ok (.long t store))
    (opens : w'.canOpen = w.canOpen)
    (copied : t.ParameterCopied (w.warehouse store) (w'.warehouse store) front back row copy)
    (placed : row ∈ front ∨ ∀ prepared e', e.prepare w q = (.ok prepared, e') →
      prepared.tellsGroups w = true) :
    e.query w' q = e.query w q := by
  have prepared := prepare_stores (e := e) (q := q) opens
  unfold query
  rw [prepared]
  cases done : e.prepare w q with
  | mk answer e' =>
    cases answer with
    | error fault => rfl
    | ok p =>
      obtain ⟨planned, resolved, built⟩ := prepare_ok done
      have passes := InsightQuery.passes planned
      have long : p.resolved = .long t store := by
        rw [passes.id, passes.type, found] at resolved
        exact (Except.ok.inj resolved).symm
      have told : row ∈ front ∨ ∀ b ∈ p.statement.branches,
          KeysTold ((b.views (w.warehouse store)).map fun v => (b.groupKey v, v)) := by
        refine placed.imp_right fun tells => ?_
        have own := Prepared.tellsGroups_told (tells p e' done)
        rwa [Prepared.database, long] at own
      rw [long] at built
      have same := copied.series_same built told
      simp only [run, long, Resolved.database, same]

def samplePlansRequest : InsightQuery :=
  { sampleSalesRequest with
    filters := [⟨"plan", .string, "is-not-null", .null⟩]
    groups := [⟨"plan", .string, []⟩] }

def samplePlan (sale : Int) (plan : String) : TableRow :=
  [("sale", .int sale), ("detail", .text "plan"), ("content", .text plan)]

theorem copies_ignored_sample :
    sampleSales.ParameterCopied (sampleSalesStore [(1, .text "pro"), (2, .text "pro")])
      (sampleSalesStore [(1, .text "pro"), (2, .text "pro"), (1, .text "pro")])
      [samplePlan 1 "pro", samplePlan 2 "pro"] [] (samplePlan 1 "pro") (samplePlan 1 "pro") ∧
    ∃ series e', sampleSalesEngine.query
        (sampleSalesWorld [(1, .text "pro"), (2, .text "pro"), (1, .text "pro")]) samplePlansRequest
          = (.ok series, e') ∧
      series.map (·.valueAt "1970-01-01") = [.ofInt 2, .ofInt 1] := by
  have copied : sampleSales.ParameterCopied (sampleSalesStore [(1, .text "pro"), (2, .text "pro")])
      (sampleSalesStore [(1, .text "pro"), (2, .text "pro"), (1, .text "pro")])
      [samplePlan 1 "pro", samplePlan 2 "pro"] [] (samplePlan 1 "pro") (samplePlan 1 "pro") :=
    ⟨rfl, ⟨_, rfl, rfl⟩, List.mem_cons_self, fun _ _ => rfl⟩
  obtain ⟨prepared, e', made, shows⟩ := exists_prepared
    (sampleSalesWorld [(1, .text "pro"), (2, .text "pro")]) sampleSalesEngine samplePlansRequest
    (shows (sampleSalesWorld [(1, .text "pro"), (2, .text "pro")]) (valuesAt "1970-01-01")
      [.ofInt 2, .ofInt 1]) (by decide +kernel)
  obtain ⟨series, answered, shown⟩ := query_shown made shows
  refine ⟨copied, series, e', ?_, shown⟩
  rw [← answered]
  exact copies_ignored rfl rfl copied (Or.inl List.mem_cons_self)

def sampleSizes : LongTable :=
  { sampleSales with
    parameters := { sampleSales.parameters with number := some sampleSales.parameters.value } }

def sampleSizesEngine : Engine :=
  ⟨.sqlite, ⟨true, some "sqlite::memory:", ⟨"", some [.long sampleSizes]⟩, []⟩, 10, 10, 100⟩

def sampleSize (size : Cell) : TableRow :=
  [("sale", .int 1), ("detail", .text "size"), ("content", size)]

def sampleSizesStore (sizes : List Cell) : Database :=
  let sale : TableRow :=
    [("number", .int 1), ("action", .text "sale"), ("visit", .text "v"), ("sold", .int 0)]
  ⟨[("sales", Table.ofRows [("number", .integer), ("action", .text), ("visit", .text),
      ("sold", .integer)] [sale]),
    ("details", Table.ofRows [("sale", .integer), ("detail", .text), ("content", .none)]
      (sizes.map sampleSize))]⟩

def sampleSizesWorld (sizes : List Cell) : World :=
  ⟨fun _ => true, .empty, fun _ => sampleSizesStore sizes⟩

def sampleSizesRequest : InsightQuery :=
  { sampleSalesRequest with
    metrics := [⟨"sale", .events⟩]
    groups := [⟨"size", .number, []⟩] }

/-- A copy of the floating one of two equal numbers renames their series where it stands in front. -/
theorem copies_rename : ∃ series series' e' e'',
    sampleSizes.ParameterCopied (sampleSizesStore [.int 1, .real (.ofInt 1)])
      (sampleSizesStore [.real (.ofInt 1), .int 1, .real (.ofInt 1)])
      [] [sampleSize (.int 1), sampleSize (.real (.ofInt 1))]
      (sampleSize (.real (.ofInt 1))) (sampleSize (.real (.ofInt 1))) ∧
    sampleSizesEngine.query (sampleSizesWorld [.int 1, .real (.ofInt 1)]) sampleSizesRequest
      = (.ok series, e') ∧
    sampleSizesEngine.query (sampleSizesWorld [.real (.ofInt 1), .int 1, .real (.ofInt 1)])
      sampleSizesRequest = (.ok series', e'') ∧
    series.map (·.name) = ["sale-1"] ∧ series'.map (·.name) = ["sale-1.0"] := by
  obtain ⟨prepared, e', made, names⟩ := exists_prepared
    (sampleSizesWorld [.int 1, .real (.ofInt 1)]) sampleSizesEngine sampleSizesRequest
    (shows (sampleSizesWorld [.int 1, .real (.ofInt 1)]) (·.map (·.name)) ["sale-1"])
    (by decide +kernel)
  obtain ⟨prepared', e'', made', names'⟩ := exists_prepared
    (sampleSizesWorld [.real (.ofInt 1), .int 1, .real (.ofInt 1)]) sampleSizesEngine
    sampleSizesRequest (shows (sampleSizesWorld [.real (.ofInt 1), .int 1, .real (.ofInt 1)])
      (·.map (·.name)) ["sale-1.0"]) (by decide +kernel)
  obtain ⟨series, answered, first⟩ := query_shown made names
  obtain ⟨series', answered', second⟩ := query_shown made' names'
  refine ⟨series, series', e', e'', ⟨rfl, ⟨_, rfl, rfl⟩, ?_, fun _ _ => rfl⟩, answered, answered',
    first, second⟩
  exact List.mem_cons_of_mem _ List.mem_cons_self

end Analytics.Engine
