import Analytics.Json.Value
import Analytics.Paging.Cursor
import Analytics.Query.Branch

/-!
Listings, page by page. Rows are in the order of a key column; a page begins behind the key at which
the page before it ended, so that no row is counted over to find the place.
-/

namespace Analytics

abbrev ResultRow := List (String × Json)

structure Page where
  items : List ResultRow
  next : Option String
  deriving Repr, BEq

structure Listing where
  insightId : String
  insightType : InsightType
  relation : Relation
  columns : List Column
  /-- The column that orders the rows. -/
  key : Column
  /-- The result column that the next cursor is read from. -/
  keyField : String
  conditions : List Condition
  order : Direction
  limit : Int
  deriving Repr

namespace Direction

/-- The comparison of a later row's key with an earlier one's. -/
def later : Direction → Comparison
  | .ascending => .greater
  | .descending => .less

def word : Direction → String
  | .ascending => "ASC"
  | .descending => "DESC"

end Direction

namespace Listing

def filter (d : Dialect) (l : Listing) : Fragment :=
  Fragment.conjunction (l.conditions.map (Condition.render d))

def behind (l : Listing) (after : Int) : Predicate Column :=
  .compare l.order.later (.column l.key) (.bound (.int after))

/-- The statement of the page behind a key, or of the first page. -/
def statement (d : Dialect) (l : Listing) (after : Option Int) : Statement :=
  let columns := String.intercalate ", " (l.columns.map Column.render)
  let position := match after with
    | some after => [(l.behind after).render Column.render d]
    | none => []
  (Fragment.raw ("SELECT " ++ columns ++ " FROM " ++ l.relation.render ++ " WHERE ")
    ++ Fragment.conjunction (l.filter d :: position)
    ++ Fragment.bound (" ORDER BY " ++ l.key.render ++ " " ++ l.order.word ++ " LIMIT ?")
        [.int l.limit]).toStatement

def keyOf? : Json → Option Int
  | .text s => Digits.toWord? s
  | value => value.toWord?

def nextCursor (l : Listing) (items : List ResultRow) : Checked (Option String) :=
  if (items.length : Int) < l.limit then .ok none
  else match items.getLast? with
    | none => .ok none
    | some last =>
      match (last.lookup l.keyField).bind keyOf? with
      | some key => .ok (some (Cursor.encode key))
      | none => .error .internal

/-- The page of a cursor, from a store that answers for the rows behind a key. -/
def page (l : Listing) (rows : Option Int → Checked (List ResultRow)) (cursor : Option String) :
    Checked Page :=
  let position : Checked (Option Int) := match cursor with
    | none => .ok none
    | some cursor => (Cursor.decode cursor).map some
  match position with
  | .error e => .error e
  | .ok after =>
    match rows after with
    | .error e => .error e
    | .ok items => (l.nextCursor items).map (⟨items, ·⟩)

end Listing

namespace Page

open Json (Read readRecord required withDefault readText readOption readList)

def readRow (value : Json) : Read ResultRow :=
  match value.canonical with
  | .object members => .ok members
  | _ => .error .unfit

def read : Json → Read Page := readRecord ["items", "nextCursor"] fun members => do
  let items ← required members "items" (readList readRow)
  let next ← withDefault members "nextCursor" none (readOption readText)
  pure ⟨items, next⟩

def toJson (p : Page) : Json :=
  let next := match p.next with
    | some cursor => [("nextCursor", Json.text cursor)]
    | none => []
  .object (("items", .array (p.items.map .object)) :: next)

end Page

end Analytics
