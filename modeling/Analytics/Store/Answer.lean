import Analytics.Paging.Listing
import Analytics.Store.Meaning
import Analytics.Store.Table

/-!
What a store answers. A branch counts the rows that satisfy its conditions, one result row for each
label and combination of group values that some row has; a listing gives the rows themselves. A
statement that names a table or column that is not there has no answer.
-/

namespace Analytics

/-- A table under a name, and the row of it that is looked at; none stands for a row of nulls. -/
structure BoundRow where
  name : Ident
  table : Table
  row : Option TableRow

/-- The rows that stand side by side. -/
abbrev RowScope := List BoundRow

namespace RowScope

def find? (s : RowScope) (name : Ident) : Option BoundRow :=
  List.find? (fun b => b.name = name) s

def view (s : RowScope) : RowView Column where
  cell c :=
    match (s.find? c.relation).bind (·.row) with
    | some row => TableRow.cell row c.name.text
    | none => .null
  affinity c :=
    match s.find? c.relation with
    | some b => (b.table.affinity? c.name.text).getD .none
    | none => .none

end RowScope

namespace Relation

def extend (db : Database) (r : Relation) (s : RowScope) : List RowScope :=
  match db.table? r.table.text with
  | some table => table.rows.map fun row => ⟨r.name, table, some row⟩ :: s
  | none => []

def extendNull (db : Database) (r : Relation) (s : RowScope) : RowScope :=
  match db.table? r.table.text with
  | some table => ⟨r.name, table, none⟩ :: s
  | none => s

end Relation

namespace Join

def apply (db : Database) (j : Join) (s : RowScope) : List RowScope :=
  match (j.relation.extend db s).filter fun t => (j.link.eval t.view).holds with
  | [] => [j.relation.extendNull db s]
  | found => found

end Join

namespace Condition

def holds (db : Database) (s : RowScope) : Condition → Bool
  | plain p => (p.eval s.view).holds
  | linked relation link p =>
    (relation.extend db s).any fun t => (link.eval t.view).holds && (p.eval t.view).holds

end Condition

namespace BucketLabel

def eval {κ : Type} (v : RowView κ) (l : BucketLabel κ) : Cell :=
  Clock.label l.encoding l.unit l.shift (v.cell l.column)

end BucketLabel

def distinctCells (seen : List Cell) : List Cell → List Cell
  | [] => []
  | c :: rest =>
    if seen.any (Cell.same c) then distinctCells seen rest
    else c :: distinctCells (c :: seen) rest

namespace Count

variable {κ : Type}

def includes (c : Count κ) (v : RowView κ) : Bool :=
  match c.event with
  | none => true
  | some (column, name) =>
    ((Predicate.compare .equal (.column column) (.bound (.text name))).eval v).holds

def eval (c : Count κ) (views : List (RowView κ)) : Nat :=
  let counted := views.filter c.includes
  match c.distinct with
  | none => counted.length
  | some column =>
    (distinctCells [] ((counted.map fun v => v.cell column).filter fun x => !x.isNull)).length

end Count

def gather {α : Type} (key : List Cell) (a : α) : List (List Cell × List α) → List (List Cell × List α)
  | [] => [(key, [a])]
  | (k, members) :: rest =>
    if k.length = key.length && (k.zip key).all (fun (x, y) => Cell.same x y) then
      (k, members ++ [a]) :: rest
    else (k, members) :: gather key a rest

def gatherAll {α : Type} (keyed : List (List Cell × α)) : List (List Cell × List α) :=
  keyed.foldl (fun groups (key, a) => gather key a groups) []

def keyFirst {α : Type} (g h : List Cell × List α) : Bool :=
  (List.compareLex Cell.order g.1 h.1).isLE

namespace Branch

def scopes (db : Database) (b : Branch) : List RowScope :=
  let joined := b.joins.foldl (fun scopes j => scopes.flatMap (j.apply db)) (b.relation.extend db [])
  joined.filter fun s => b.conditions.all fun c => c.holds db s

def groupKey (b : Branch) (v : RowView Column) : List Cell :=
  b.label.eval v :: (b.groups.filter GroupColumn.isGrouped).map fun c => c.expr.eval v

/-- The result row of a group of rows. A later column takes the place of an earlier one of its
name. -/
def resultRow (b : Branch) (first : RowView Column) (views : List (RowView Column)) : ResultRow :=
  let cells :=
    (dateColumnName, b.label.eval first) ::
      (b.metrics.map (fun m => (m.title.text, Cell.int (m.count.eval views))) ++
        b.groups.map fun c => (c.title.text, c.expr.eval first))
  Json.sortMembers (cells.map fun (name, cell) => (name, cell.toJson))

/-- The result rows of a branch, in the order of their keys. -/
def answer (db : Database) (b : Branch) : List (Cell × ResultRow) :=
  let keyed := (b.scopes db).map fun s => (b.groupKey s.view, s.view)
  ((gatherAll keyed).mergeSort keyFirst).filterMap fun (_, views) =>
    views.head?.map fun first => (b.label.eval first, b.resultRow first views)

def relations (b : Branch) : List Relation :=
  b.relation :: (b.joins.map (·.relation) ++ b.conditions.filterMap fun c => match c with
    | .plain _ => none
    | .linked relation _ _ => some relation)

end Branch

namespace Scalar

variable {κ : Type}

def columns : Scalar κ → List κ
  | column c => [c]
  | bound _ => []
  | number e => e.columns
  | timestamp e => e.columns
  | date e => e.columns

end Scalar

namespace Predicate

variable {κ : Type}

def columns : Predicate κ → List κ
  | always => []
  | never => []
  | isNull c => [c]
  | isNotNull c => [c]
  | compare _ left right => left.columns ++ right.columns
  | both first second => first.columns ++ second.columns
  | within item items => item.columns ++ items.flatMap Scalar.columns
  | notWithin item items => item.columns ++ items.flatMap Scalar.columns
  | like c _ => [c]
  | notLike c _ => [c]

end Predicate

namespace Condition

def columns : Condition → List Column
  | plain p => p.columns
  | linked _ link p => link.columns ++ p.columns

end Condition

namespace Count

def columns {κ : Type} (c : Count κ) : List κ :=
  c.distinct.toList ++ (c.event.map (·.1)).toList

end Count

namespace GroupExpr

def columns {κ : Type} : GroupExpr κ → List κ
  | value c => [c]
  | flag p => p.columns
  | zero => []

end GroupExpr

namespace Branch

/-- The columns that a branch reads. -/
def columns (b : Branch) : List Column :=
  b.label.column :: (b.metrics.flatMap (·.count.columns) ++ b.groups.flatMap (·.expr.columns)
    ++ b.joins.flatMap (·.link.columns) ++ b.conditions.flatMap Condition.columns)

end Branch

namespace Database

def hasColumn (db : Database) (relations : List Relation) (c : Column) : Bool :=
  relations.any fun r => r.name = c.relation &&
    match db.table? r.table.text with
    | some table => table.hasColumn c.name.text
    | none => false

def knows (db : Database) (relations : List Relation) (columns : List Column) : Bool :=
  (relations.all fun r => (db.table? r.table.text).isSome) && columns.all (db.hasColumn relations)

def maxBranches : Nat := 500

/-- The answer to a statement for series, in the order of the labels. -/
def series? (db : Database) (s : SeriesStatement) : Option (List ResultRow) :=
  if s.branches.length ≤ maxBranches && s.branches.all fun b => db.knows b.relations b.columns then
    let rows := s.branches.flatMap (Branch.answer db)
    some ((rows.mergeSort fun a b => Cell.order a.1 b.1 ≠ .gt).map (·.2))
  else none

end Database

namespace Listing

def readColumns (l : Listing) : List Column :=
  l.key :: (l.columns ++ l.conditions.flatMap Condition.columns)

def relations (l : Listing) : List Relation :=
  l.relation :: l.conditions.filterMap fun c => match c with
    | .plain _ => none
    | .linked relation _ _ => some relation

/-- The rows of a listing behind a key, before they are ordered and cut. -/
def scopes (db : Database) (l : Listing) (after : Option Int) : List RowScope :=
  let position := match after with
    | some after => [Condition.plain (l.behind after)]
    | none => []
  (l.relation.extend db []).filter fun s => (l.conditions ++ position).all fun c => c.holds db s

def comesFirst (l : Listing) (s t : RowScope) : Bool :=
  let order := Cell.order (s.view.cell l.key) (t.view.cell l.key)
  match l.order with
  | .ascending => order ≠ .gt
  | .descending => order ≠ .lt

def cut {α : Type} (limit : Int) (rows : List α) : List α :=
  if limit < 0 then rows else rows.take limit.toNat

def resultRow (l : Listing) (s : RowScope) : ResultRow :=
  Json.sortMembers (l.columns.map fun c => (c.name.text, (s.view.cell c).toJson))

end Listing

namespace Database

def listing? (db : Database) (l : Listing) (after : Option Int) : Option (List ResultRow) :=
  if db.knows l.relations l.readColumns then
    some ((Listing.cut l.limit ((l.scopes db after).mergeSort l.comesFirst)).map l.resultRow)
  else none

end Database

end Analytics
