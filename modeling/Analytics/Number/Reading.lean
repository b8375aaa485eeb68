import Analytics.Number.Binary64

/-!
Reading numbers from text: signed whole numbers, and decimal fractions with an exponent.
-/

namespace Analytics

namespace Digits

def isDigit (c : Char) : Bool := '0' ≤ c && c ≤ '9'

def value (c : Char) : Nat := c.toNat - '0'.toNat

/-- The number that a run of digits writes. -/
def toNat (cs : List Char) : Nat := cs.foldl (fun n c => n * 10 + value c) 0

def splitSign : List Char → Bool × List Char
  | '-' :: rest => (true, rest)
  | '+' :: rest => (false, rest)
  | cs => (false, cs)

def toInt? (cs : List Char) : Option Int :=
  let (negative, body) := splitSign cs
  if body.isEmpty || !body.all isDigit then none
  else some (if negative then -(toNat body : Int) else toNat body)

end Digits

namespace Digits

def toWord? (s : String) : Option Int :=
  (toInt? s.toList).filter fitsWord

def toBounded? (bound : Nat) (s : String) : Option Nat :=
  let body := match s.toList with
    | '+' :: rest => rest
    | cs => cs
  if body.isEmpty || !body.all isDigit then none
  else
    let n := toNat body
    if n < bound then some n else none

end Digits

/-- The parts of a written decimal: digits before and after the point, and the exponent. -/
structure WrittenDecimal where
  whole : List Char
  fraction : List Char
  exponent : Int

namespace WrittenDecimal

def digits (w : WrittenDecimal) : Nat := Digits.toNat (w.whole ++ w.fraction)

def power (w : WrittenDecimal) : Int := w.exponent - (w.fraction.length : Int)

def exponent? : List Char → Option Int
  | [] => some 0
  | c :: rest => if c = 'e' || c = 'E' then Digits.toInt? rest else none

/-- Digits, an optional point with digits, an optional exponent; one digit at least. -/
def ofText? (cs : List Char) : Option WrittenDecimal :=
  let whole := cs.takeWhile Digits.isDigit
  let (fraction, rest) := match cs.dropWhile Digits.isDigit with
    | '.' :: rest => (rest.takeWhile Digits.isDigit, rest.dropWhile Digits.isDigit)
    | rest => ([], rest)
  if whole.isEmpty && fraction.isEmpty then none
  else (exponent? rest).map fun e => ⟨whole, fraction, e⟩

end WrittenDecimal

namespace Binary64

def hugeExponent : Int := 100000

def ofWritten (negative : Bool) (w : WrittenDecimal) : Binary64 :=
  if w.digits = 0 then .finite negative 0 leastExponent
  else if hugeExponent < w.power then .infinite negative
  else if w.power < -hugeExponent then .finite negative 0 leastExponent
  else ofDecimal negative w.digits w.power

def lowerAscii (c : Char) : Char := if 'A' ≤ c && c ≤ 'Z' then Char.ofNat (c.toNat + 32) else c

def ofText? (s : String) : Option Binary64 :=
  let (negative, body) := Digits.splitSign s.toList
  let word := String.ofList (body.map lowerAscii)
  if word = "inf" || word = "infinity" then some (.infinite negative)
  else if word = "nan" then some .nan
  else (WrittenDecimal.ofText? body).map (ofWritten negative)

end Binary64

end Analytics
