import Analytics.Number.Binary64

/-!
JSON values. Whole numbers and floating ones are kept apart; an object is its members in the order
written, and `canonical` gives the sorted object in which a later member replaces an earlier one.
-/

namespace Analytics

inductive Json where
  | null
  | bool (b : Bool)
  | int (i : Int)
  | float (x : Binary64)
  | text (s : String)
  | array (items : List Json)
  | object (members : List (String × Json))
  deriving Repr, Inhabited, BEq

namespace Json

/-- Puts a member at its place in a sorted list, in place of one with the same key. -/
def insertMember (key : String) (value : Json) : List (String × Json) → List (String × Json)
  | [] => [(key, value)]
  | (k, v) :: rest =>
    if key = k then (key, value) :: rest
    else if key < k then (key, value) :: (k, v) :: rest
    else (k, v) :: insertMember key value rest

def sortMembers (members : List (String × Json)) : List (String × Json) :=
  members.foldl (fun sorted m => insertMember m.1 m.2 sorted) []

mutual

def canonical : Json → Json
  | .array items => .array (canonicalItems items)
  | .object members => .object (sortMembers (canonicalMembers members))
  | .null => .null
  | .bool b => .bool b
  | .int i => .int i
  | .float x => .float x
  | .text s => .text s

def canonicalItems : List Json → List Json
  | [] => []
  | item :: rest => canonical item :: canonicalItems rest

def canonicalMembers : List (String × Json) → List (String × Json)
  | [] => []
  | (key, value) :: rest => (key, canonical value) :: canonicalMembers rest

end

def get? (key : String) : Json → Option Json
  | .object members => (members.reverse.find? fun m => m.1 = key).map (·.2)
  | _ => none

def isNull : Json → Bool
  | .null => true
  | _ => false

/-- The whole number of a value that fits a 64-bit signed word. -/
def toWord? : Json → Option Int
  | .int i => if fitsWord i then some i else none
  | _ => none

def toFloat? : Json → Option Binary64
  | .int i => some (Binary64.ofInt i)
  | .float x => some x
  | _ => none

def ofOption {α : Type} (encode : α → Json) : Option α → Json
  | some a => encode a
  | none => .null

def ofFloat (x : Binary64) : Json := if x.isFinite then .float x else .null

end Json

end Analytics
