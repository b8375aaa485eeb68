import Analytics.Json.Printer
import Analytics.Number.Reading
import Analytics.Paging.Listing
import Analytics.Query.Plan
import Analytics.Series.Basic

/-!
Series out of result rows. Rows are sparse and in any order; series are dense, one for each metric and
combination of group values, with a value for every bucket of the request and every date of a row.
-/

namespace Analytics

/-- A value of a group: a bucket by its place, or a label of a raw group. -/
inductive GroupValue where
  | bucket (index : Nat)
  | label (text : String)
  deriving DecidableEq, Repr

namespace GroupValue

/-- Buckets by their place, labels by their characters, buckets first. -/
def before : GroupValue → GroupValue → Bool
  | bucket i, bucket j => i < j
  | bucket _, label _ => true
  | label _, bucket _ => false
  | label s, label t => s < t

def combinationBefore : List GroupValue → List GroupValue → Bool
  | [], [] => false
  | [], _ :: _ => true
  | _ :: _, [] => false
  | a :: as, b :: bs => a.before b || (a = b && combinationBefore as bs)

end GroupValue

def insertSorted {α : Type} [DecidableEq α] (before : α → α → Bool) (a : α) : List α → List α
  | [] => [a]
  | b :: rest =>
    if a = b then b :: rest
    else if before a b then a :: b :: rest
    else b :: insertSorted before a rest

def sortDistinct {α : Type} [DecidableEq α] (before : α → α → Bool) (values : List α) : List α :=
  values.foldr (insertSorted before) []

namespace ResultValue

def nullLabel : String := "(null)"

def label? : Json → Option String
  | .null => none
  | .text s => some s
  | other => some other.render

/-- The number of a value: a number, or text that writes one, or else zero. -/
def number : Json → Binary64
  | .int i => .ofInt i
  | .float x => x
  | .text s => (Binary64.ofText? s).getD .zero
  | _ => .zero

def isSet : Json → Bool
  | .int i => i = 1
  | .float x => Binary64.compareInt? 1 x = some .eq
  | .text s => s = "1"
  | .bool b => b
  | _ => false

end ResultValue

namespace ResultRow

def cell (row : ResultRow) (name : String) : Json := (row.lookup name).getD .null

end ResultRow

namespace GroupPlan

def flagged (row : ResultRow) (position : Nat) : List Bucket → List GroupValue
  | [] => []
  | b :: rest =>
    if ResultValue.isSet (ResultRow.cell row b.title.text) then
      .bucket position :: flagged row (position + 1) rest
    else flagged row (position + 1) rest

def valuesOf (row : ResultRow) (g : GroupPlan) : List GroupValue :=
  match g.form with
  | .raw title =>
    [.label ((ResultValue.label? (ResultRow.cell row title.text)).getD ResultValue.nullLabel)]
  | .custom buckets => flagged row 0 buckets

def valueLabel (g : GroupPlan) : GroupValue → String
  | .label text => text
  | .bucket index =>
    match g.form with
    | .raw _ => ""
    | .custom buckets =>
      match buckets[index]? with
      | some b => b.label
      | none => ""

end GroupPlan

structure DatedRow where
  date : String
  row : ResultRow
  combinations : List (List GroupValue)

namespace QueryPlan

def groupTitles (p : QueryPlan) : List String :=
  (p.groups.flatMap (·.titles)).map (·.text)

def isStray (p : QueryPlan) (column : String) : Bool :=
  column.toList.head? = some '%' && !p.groupTitles.contains column

def datedRow? (p : QueryPlan) (row : ResultRow) : Option DatedRow :=
  (ResultValue.label? (ResultRow.cell row dateColumnName)).map fun date =>
    ⟨date, row, combinations (p.groups.map (GroupPlan.valuesOf row))⟩

def knownCombinations (p : QueryPlan) : List (List GroupValue) :=
  if p.groups.all (·.isCustom) then
    (branchSelections p.groups).map fun selection => (selection.filterMap id).map .bucket
  else []

def seriesName (p : QueryPlan) (m : PlannedMetric) (key : List GroupValue) : String :=
  ((p.groups.zip key).map fun (g, value) => g.valueLabel value).foldl
    (fun name label => name ++ "-" ++ label) m.title.text

def total (m : PlannedMetric) (date : String) (rows : List DatedRow) : Binary64 :=
  (rows.filter fun r => r.date = date).foldl
    (fun sum r => sum.add (ResultValue.number (ResultRow.cell r.row m.title.text))) .zero

def seriesOf (p : QueryPlan) (dates : List String) (rows : List DatedRow) (m : PlannedMetric)
    (key : List GroupValue) : Series :=
  let counted := rows.filter fun r => r.combinations.contains key
  ⟨p.seriesName m key, dates.map fun date => ⟨date, total m date counted⟩⟩

/-- The series of a request out of its result rows. -/
def seriesOfRows (p : QueryPlan) (rows : List ResultRow) : Checked (List Series) :=
  let dated := rows.filterMap p.datedRow?
  if dated.any fun r => r.row.any fun cell => p.isStray cell.1 then .error .internal
  else
    let dates := sortDistinct (fun a b => a < b) (p.buckets ++ dated.map (·.date))
    let keys := sortDistinct GroupValue.combinationBefore
      (p.knownCombinations ++ dated.flatMap (·.combinations))
    .ok (p.metrics.flatMap fun m => keys.map (p.seriesOf dates dated m))

end QueryPlan

end Analytics
