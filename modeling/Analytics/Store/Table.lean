import Analytics.Sql.Ident
import Analytics.Store.Cell

/-!
Tables. A table has columns with affinities and rows in the order of their numbers; names of tables
and columns are matched without regard to the case of English letters.
-/

namespace Analytics

def foldName (s : String) : String := String.ofList (s.toList.map Char.toLower)

/-- What a row holds, by column name; null elsewhere. -/
abbrev TableRow := List (String × Cell)

structure Table where
  columns : List (String × Affinity)
  rows : List TableRow
  deriving Repr

namespace Table

def affinity? (t : Table) (name : String) : Option Affinity :=
  (t.columns.find? fun c => foldName c.1 = foldName name).map (·.2)

def hasColumn (t : Table) (name : String) : Bool := (t.affinity? name).isSome

end Table

namespace TableRow

def cell (row : TableRow) (name : String) : Cell :=
  match row.find? fun c => foldName c.1 = foldName name with
  | some c => c.2
  | none => .null

/-- A row as a table with some columns keeps it. -/
def kept (columns : List (String × Affinity)) (row : TableRow) : TableRow :=
  columns.map fun (name, affinity) => (name, (TableRow.cell row name).kept affinity)

end TableRow

namespace Table

def ofRows (columns : List (String × Affinity)) (rows : List TableRow) : Table :=
  ⟨columns, rows.map (TableRow.kept columns)⟩

/-- Puts a row at its place by a whole number in a column, behind rows with the same one. -/
def insertByNumber (name : String) (row : TableRow) : List TableRow → List TableRow
  | [] => [row]
  | other :: rest =>
    if Cell.order (TableRow.cell row name) (TableRow.cell other name) = .lt then row :: other :: rest
    else other :: insertByNumber name row rest

def nextNumber (name : String) (rows : List TableRow) : Int :=
  rows.foldl (fun next row => match TableRow.cell row name with
    | .int i => max next (i + 1)
    | _ => next) 1

def addNumbered (name : String) (rows : List TableRow) (row : TableRow) : List TableRow :=
  if (TableRow.cell row name).isNull then
    let number := Cell.int (nextNumber name rows)
    insertByNumber name (row.map fun c => if foldName c.1 = foldName name then (c.1, number) else c)
      rows
  else insertByNumber name row rows

def ofNumberedRows (name : String) (columns : List (String × Affinity)) (rows : List TableRow) :
    Table :=
  ⟨columns, (rows.map (TableRow.kept columns)).foldl (addNumbered name) []⟩

end Table

structure Database where
  tables : List (String × Table)
  deriving Repr

namespace Database

def empty : Database := ⟨[]⟩

def table? (db : Database) (name : String) : Option Table :=
  (db.tables.find? fun t => foldName t.1 = foldName name).map (·.2)

end Database

end Analytics
