import Analytics.Group.Plan
import Analytics.Query.Dates

/-!
Statements for series as data. A statement is a list of branches, one for each combination of
buckets; a branch counts the rows of one relation that satisfy its conditions, by bucket label and
group values. `SeriesStatement.render` writes the statement with its parameters.
-/

namespace Analytics

structure Relation where
  table : Ident
  name : Ident
  deriving DecidableEq, Repr

namespace Relation

def render (r : Relation) : String := r.table.quoted ++ " AS " ++ r.name.quoted

def column (r : Relation) (column : Ident) : Column := ⟨r.name, column⟩

end Relation

/-- What a metric counts: rows, or the distinct values of a column that are not null; of every event
or of the events that carry a name. -/
structure Count (κ : Type) where
  distinct : Option κ
  event : Option (κ × String)
  deriving DecidableEq, Repr

namespace Count

def render {κ : Type} (name : κ → String) (c : Count κ) : Fragment :=
  let word := if c.distinct.isSome then "COUNT(DISTINCT " else "COUNT("
  let counted := match c.distinct with
    | some column => name column
    | none => "1"
  match c.event with
  | none => Fragment.raw (word ++ counted ++ ")")
  | some (column, event) =>
    Fragment.bound (word ++ "CASE WHEN " ++ name column ++ " = ? THEN " ++ counted ++ " END)")
      [.text event]

end Count

structure MetricColumn where
  count : Count Column
  title : Ident
  deriving Repr

namespace MetricColumn

def render (m : MetricColumn) : Fragment :=
  (m.count.render Column.render).andThen (" AS " ++ m.title.quoted)

end MetricColumn

/-- A relation whose matching rows, or else a row of nulls, stand beside each row. -/
structure Join where
  relation : Relation
  link : Predicate Column
  deriving Repr

namespace Join

def render (d : Dialect) (j : Join) : Fragment :=
  Fragment.raw (" LEFT JOIN " ++ j.relation.render ++ " ON ") ++ j.link.render Column.render d

end Join

inductive Condition where
  /-- A predicate on the row. -/
  | plain (p : Predicate Column)
  /-- That some linked row of a relation satisfies a predicate. -/
  | linked (relation : Relation) (link p : Predicate Column)
  deriving Repr

namespace Condition

def render (d : Dialect) : Condition → Fragment
  | plain p => p.render Column.render d
  | linked relation link p =>
    let linked := (link.render Column.render d).andThen " AND "
    (linked ++ (p.render Column.render d).enclose "(" ")").enclose
      ("EXISTS (SELECT 1 FROM " ++ relation.render ++ " WHERE ") ")"

end Condition

structure Branch where
  label : BucketLabel Column
  metrics : List MetricColumn
  groups : List (GroupColumn Column)
  relation : Relation
  joins : List Join
  conditions : List Condition
  deriving Repr

def dateColumnName : String := "date"

namespace Branch

def groupedPositions (position : Nat) : List (GroupColumn Column) → List Nat
  | [] => []
  | c :: rest =>
    if c.isGrouped then position :: groupedPositions (position + 1) rest
    else groupedPositions (position + 1) rest

/-- The places that rows are grouped by: the label, and the grouped columns behind the metrics. -/
def groupPositions (b : Branch) : List Nat :=
  1 :: groupedPositions (b.metrics.length + 2) b.groups

/-- The names of the result columns. -/
def columnNames (b : Branch) : List String :=
  dateColumnName :: (b.metrics.map (·.title.text) ++ b.groups.map (·.title.text))

def selected (d : Dialect) (b : Branch) : Fragment :=
  let label := Fragment.raw (b.label.render Column.render d ++ " AS \"" ++ dateColumnName ++ "\"")
  Fragment.join ", "
    (label :: (b.metrics.map MetricColumn.render ++ b.groups.map (·.render Column.render d)))

def source (d : Dialect) (b : Branch) : Fragment :=
  (b.joins.map (Join.render d)).foldl (· ++ ·) (Fragment.raw b.relation.render)

def render (d : Dialect) (b : Branch) : Fragment :=
  let positions := String.intercalate ", " (b.groupPositions.map toString)
  let conditions := Fragment.conjunction (b.conditions.map (Condition.render d))
  (Fragment.raw "SELECT " ++ b.selected d).andThen " FROM " ++ (b.source d).andThen " WHERE "
    ++ conditions.andThen (" GROUP BY " ++ positions)

end Branch

structure SeriesStatement where
  branches : List Branch
  deriving Repr

namespace SeriesStatement

def render (d : Dialect) (s : SeriesStatement) : Statement :=
  ((Fragment.join " UNION ALL " (s.branches.map (Branch.render d))).andThen
    " ORDER BY 1 ASC").toStatement

end SeriesStatement

end Analytics
