import Analytics.Series.Dense

/-!
Series out of result rows in one pass. Each row is posted to a ledger as it comes: the ledger keeps the
dates so far and, for every combination of group values, its labels and the sums of the metrics.
-/

namespace Analytics

abbrev DateSums := List (String × Binary64)

namespace DateSums

def sumAt (sums : DateSums) (date : String) : Binary64 := (sums.lookup date).getD .zero

def add (date : String) (x : Binary64) : DateSums → DateSums
  | [] => [(date, Binary64.zero.add x)]
  | (d, sum) :: rest =>
    if date = d then (d, sum.add x) :: rest else (d, sum) :: add date x rest

end DateSums

structure LedgerEntry where
  key : List GroupValue
  labels : List String
  /-- The sums of each metric. -/
  sums : List DateSums

namespace LedgerEntry

def blank (p : QueryPlan) (combination : List (GroupValue × String)) : LedgerEntry :=
  ⟨combination.map (·.1), combination.map (·.2), p.metrics.map fun _ => []⟩

def addRow (p : QueryPlan) (date : String) (row : ResultRow) (e : LedgerEntry) : LedgerEntry :=
  ⟨e.key, e.labels, List.zipWith
    (fun m => DateSums.add date (ResultValue.number (ResultRow.cell row m.title.text)))
    p.metrics e.sums⟩

def change (fresh : LedgerEntry) (f : LedgerEntry → LedgerEntry) : List LedgerEntry → List LedgerEntry
  | [] => [f fresh]
  | e :: rest =>
    if fresh.key = e.key then f e :: rest
    else if GroupValue.combinationBefore fresh.key e.key then f fresh :: e :: rest
    else e :: change fresh f rest

end LedgerEntry

structure Ledger where
  dates : List String
  /-- By their combinations, in order. -/
  entries : List LedgerEntry

namespace GroupPlan

def labelled (row : ResultRow) (g : GroupPlan) : List (GroupValue × String) :=
  (g.valuesOf row).map fun value => (value, g.valueLabel value)

end GroupPlan

namespace QueryPlan

def knownLabelled (p : QueryPlan) : List (List (GroupValue × String)) :=
  if p.groups.all (·.isCustom) then
    (branchSelections p.groups).map fun selection =>
      (p.groups.zip selection).filterMap fun (g, choice) =>
        choice.map fun index => (.bucket index, g.valueLabel (.bucket index))
  else []

def refuses (p : QueryPlan) (column : String) : Bool :=
  column.toList.head? = some '%' &&
    ((GroupKey.decode column).isNone || !p.groupTitles.contains column)

end QueryPlan

namespace Ledger

/-- The ledger before any row: the buckets of the request and the combinations that are known. -/
def opening (p : QueryPlan) : Ledger :=
  ⟨sortDistinct (fun a b => a < b) p.buckets,
    p.knownLabelled.foldl (fun entries c => LedgerEntry.change (.blank p c) id entries) []⟩

def post (p : QueryPlan) (date : String) (row : ResultRow) (l : Ledger) : Ledger :=
  ⟨insertSorted (fun a b => a < b) date l.dates,
    (combinations (p.groups.map (GroupPlan.labelled row))).foldl
      (fun entries c => LedgerEntry.change (.blank p c) (.addRow p date row) entries) l.entries⟩

/-- Rows without a date are passed over. -/
def read (p : QueryPlan) (row : ResultRow) (l : Ledger) : Checked Ledger :=
  match ResultValue.label? (ResultRow.cell row dateColumnName) with
  | none => .ok l
  | some date =>
    if row.any fun cell => p.refuses cell.1 then .error .internal else .ok (l.post p date row)

def readAll (p : QueryPlan) : List ResultRow → Ledger → Checked Ledger
  | [], l => .ok l
  | row :: rest, l =>
    match l.read p row with
    | .error e => .error e
    | .ok l' => readAll p rest l'

def series (p : QueryPlan) (l : Ledger) : List Series :=
  p.metrics.zipIdx.flatMap fun (m, index) => l.entries.map fun e =>
    ⟨e.labels.foldl (fun name label => name ++ "-" ++ label) m.title.text,
      l.dates.map fun date => ⟨date, DateSums.sumAt (e.sums[index]?.getD []) date⟩⟩

end Ledger

/-- The series of a request out of its result rows, read one after the other. -/
def QueryPlan.postedSeries (p : QueryPlan) (rows : List ResultRow) : Checked (List Series) :=
  (Ledger.readAll p rows (.opening p)).map (Ledger.series p)

end Analytics
