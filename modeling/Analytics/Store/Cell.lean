import Analytics.Json.Value
import Analytics.Number.Shortest
import Analytics.Store.Numeral
import Analytics.Text.Base64

/-!
Values in tables, and how they are compared. A column has an affinity, the kind that its values are
turned into where that loses nothing; comparisons turn their sides into a common kind the same way.
-/

namespace Analytics

inductive Cell where
  | null
  | int (i : Int)
  | real (x : Binary64)
  | text (s : String)
  | blob (bytes : List UInt8)
  deriving DecidableEq, Repr, Inhabited

inductive Affinity where
  | none
  | text
  | numeric
  | integer
  | real
  deriving DecidableEq, Repr, Inhabited

namespace Affinity

/-- Whether some part of a text is the given one. -/
def holds (part : String) : List Char → Bool
  | [] => part.isEmpty
  | c :: rest => part.toList.isPrefixOf (c :: rest) || holds part rest

def ofDeclared (type : String) : Affinity :=
  let cs := type.toList.map Char.toUpper
  if holds "INT" cs then .integer
  else if holds "CHAR" cs || holds "CLOB" cs || holds "TEXT" cs then .text
  else if holds "BLOB" cs || cs.isEmpty then .none
  else if holds "REAL" cs || holds "FLOA" cs || holds "DOUB" cs then .real
  else .numeric

def isNumeric : Affinity → Bool
  | .numeric | .integer | .real => true
  | _ => false

def common : Affinity → Affinity → Affinity
  | .none, b => b
  | a, .none => a
  | a, b => if a.isNumeric || b.isNumeric then .numeric else .none

end Affinity

namespace Cell

def realLayout : DecimalLayout := ⟨-4, 15, true, 2⟩

def realText : Binary64 → String
  | .finite negative significand exponent =>
    (if negative then "-" else "") ++
      (if significand = 0 then "0.0"
       else realLayout.render (Decimal.rounded 15 significand exponent))
  | .infinite negative => if negative then "-Inf" else "Inf"
  | .nan => ""

def wholeOf? (x : Binary64) : Option Int :=
  x.toInt?.filter fun i => leastWord < i && i < greatestWord

def numberOfText? (s : String) : Option Cell :=
  let n := Numeral.ofText s
  if !n.isComplete then Option.none
  else if n.isWhole && fitsWord n.toInt then some (.int n.toInt)
  else some (.real n.toFloat)

/-- A value as a column of some affinity keeps it. -/
def kept (a : Affinity) (c : Cell) : Cell :=
  let number : Cell := match c with
    | .text s => (numberOfText? s).getD c
    | _ => c
  match a with
  | .none => c
  | .text =>
    match c with
    | .int i => .text (toString i)
    | .real x => .text (realText x)
    | _ => c
  | .numeric | .integer =>
    match number with
    | .real x =>
      match wholeOf? x with
      | some i => .int i
      | Option.none => .real x
    | _ => number
  | .real =>
    match number with
    | .int i => .real (.ofInt i)
    | .real x => .real (if x.toInt? = some 0 then .zero else x)
    | _ => number

def compared (a : Affinity) (c : Cell) : Cell :=
  match a, c with
  | .text, .int i => .text (toString i)
  | .text, .real x => .text (realText x)
  | .numeric, .text s | .integer, .text s | .real, .text s => (numberOfText? s).getD c
  | _, _ => c

def bytesBefore : List UInt8 → List UInt8 → Ordering
  | [], [] => .eq
  | [], _ :: _ => .lt
  | _ :: _, [] => .gt
  | a :: as, b :: bs => (compare a b).then (bytesBefore as bs)

/-- Nulls come first, then numbers by size, what is not a number before all others, then texts by their
characters, then bytes. -/
def order : Cell → Cell → Ordering
  | .null, .null => .eq
  | .null, _ => .lt
  | _, .null => .gt
  | .int i, .int j => compare i j
  | .int i, .real x => (Binary64.compareInt? i x).getD .gt
  | .real x, .int i => ((Binary64.compareInt? i x).getD .gt).swap
  | .real x, .real y => (Binary64.compare? x y).getD (compare y.isNaN x.isNaN)
  | .int _, _ => .lt
  | .real _, _ => .lt
  | _, .int _ => .gt
  | _, .real _ => .gt
  | .text s, .text t => compare s t
  | .text _, .blob _ => .lt
  | .blob _, .text _ => .gt
  | .blob a, .blob b => bytesBefore a b

/-- Whether two values are the same in groups and distinct counts. -/
def same (c d : Cell) : Bool := order c d = .eq

def isNull : Cell → Bool
  | .null => true
  | _ => false

def text? : Cell → Option String
  | .null => none
  | .int i => some (toString i)
  | .real x => some (realText x)
  | .text s => some s
  | .blob bytes => some (String.fromUTF8? (ByteArray.mk bytes.toArray) |>.getD "")

def toReal (c : Cell) : Cell :=
  match c with
  | .null => .null
  | .int i => .real (.ofInt i)
  | .real x => .real x
  | _ => .real (Numeral.ofText (c.text?.getD "")).toFloat

def toJson : Cell → Json
  | .null => .null
  | .int i => .int i
  | .real x => .ofFloat x
  | .text s => .text s
  | .blob bytes => .text (String.ofList (Base64.standard.encode bytes))

end Cell

end Analytics
