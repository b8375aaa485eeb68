import Analytics.Group.Plan
import Analytics.Sql.Predicate
import Analytics.Store.Clock
import Analytics.Store.Pattern
import Analytics.Store.Truth

/-!
What scalars and predicates mean on a row. A row is given by what it holds in each column and by the
affinity of the column.
-/

namespace Analytics

structure RowView (κ : Type) where
  cell : κ → Cell
  affinity : κ → Affinity

namespace Bind

def toCell : Bind → Cell
  | .text s => .text s
  | .int i => .int i
  | .float .nan => .null
  | .float x => .real x
  | .bool b => .int (if b then 1 else 0)

end Bind

namespace Scalar

variable {κ : Type}

def eval (v : RowView κ) : Scalar κ → Cell
  | column c => v.cell c
  | bound value => value.toCell
  | number e => (e.eval v).toReal
  | timestamp e => Clock.dateTime (e.eval v)
  | date e => Clock.date (e.eval v)

def affinity (v : RowView κ) : Scalar κ → Affinity
  | column c => v.affinity c
  | number _ => .real
  | _ => .none

end Scalar

/-- Truth of a comparison of two cells; unknown if one of them is null. -/
def compareCells (op : Comparison) (a : Affinity) (left right : Cell) : Truth :=
  if left.isNull || right.isNull then .unknown
  else .ofBool (op.holds (Cell.order (left.compared a) (right.compared a)))

def matchCell (pattern : String) (c : Cell) : Truth :=
  match c.text? with
  | some s => .ofBool (Pattern.accepts pattern s)
  | none => .unknown

namespace Predicate

variable {κ : Type}

/-- Whether an item is one of some; the affinity is that of the item. -/
def evalWithin (v : RowView κ) (item : Scalar κ) (items : List (Scalar κ)) : Truth :=
  Truth.any (items.map fun other =>
    compareCells .equal (item.affinity v) (item.eval v) (other.eval v))

def eval (v : RowView κ) : Predicate κ → Truth
  | always => .yes
  | never => .no
  | isNull c => .ofBool (v.cell c).isNull
  | isNotNull c => .ofBool (!(v.cell c).isNull)
  | compare op left right =>
    compareCells op ((left.affinity v).common (right.affinity v)) (left.eval v) (right.eval v)
  | both first second => (first.eval v).and (second.eval v)
  | within item items => evalWithin v item items
  | notWithin item items => (evalWithin v item items).not
  | like c pattern => matchCell pattern (v.cell c)
  | notLike c pattern => (matchCell pattern (v.cell c)).not

end Predicate

namespace GroupExpr

variable {κ : Type}

def eval (v : RowView κ) : GroupExpr κ → Cell
  | value c => v.cell c
  | flag p => .int (if (p.eval v).holds then 1 else 0)
  | zero => .int 0

end GroupExpr

end Analytics
