import Analytics.Number.Binary64

/-!
Decimal digits of a floating number: the fewest that read back as the number, and a fixed count.
-/

namespace Analytics

/-- Digits `d` and a power `k`, standing for `d * 10 ^ k`. -/
structure Decimal where
  digits : Nat
  power : Int
  deriving DecidableEq, Repr

namespace Decimal

def digitCount (n : Nat) : Nat := (Nat.toDigits 10 n).length

def leadingPower (q : Fraction) : Int :=
  if q.2 ≤ q.1 then (digitCount (q.1 / q.2) : Int) - 1
  else 0 - (digitCount ((q.2 + q.1 - 1) / q.1 - 1) : Int)

def trim : Nat → Decimal → Decimal
  | 0, d => d
  | count + 1, d =>
    if d.digits ≠ 0 ∧ d.digits % 10 = 0 then trim count ⟨d.digits / 10, d.power + 1⟩ else d

/-- The reals that round to a number: their bounds, and whether the bounds belong to them. -/
structure Interval where
  low : Fraction
  high : Fraction
  closed : Bool

def intervalOf (significand : Nat) (exponent : Int) : Interval :=
  let gapBelow :=
    if significand = Binary64.leastNormal ∧ Binary64.leastExponent < exponent then 1 else 2
  { low := Fraction.scale (4 * significand - gapBelow, 1) (exponent - 2)
    high := Fraction.scale (4 * significand + 2, 1) (exponent - 2)
    closed := significand % 2 = 0 }

def Interval.holds (i : Interval) (q : Fraction) : Bool :=
  if i.closed then i.low.le q && q.le i.high else i.low.lt q && q.lt i.high

/-- The neighbour of `q` on the grid of step `10 ^ power` that lies in the interval, the nearer one
of two, the even one of two equally near. -/
def onGrid? (i : Interval) (q : Fraction) (power : Int) : Option Decimal :=
  let scaled := Fraction.scaleTen q (-power)
  let below := scaled.1 / scaled.2
  let value (n : Nat) : Fraction := Fraction.scaleTen (n, 1) power
  let first := scaled.toNearest
  let second := if first = below then below + 1 else below
  if i.holds (value first) then some ⟨first, power⟩
  else if i.holds (value second) then some ⟨second, power⟩
  else none

def search (i : Interval) (q : Fraction) : Nat → Int → Decimal
  | 0, power => ⟨(Fraction.scaleTen q (-power)).toNearest, power⟩
  | count + 1, power =>
    match onGrid? i q power with
    | some d => d
    | none => search i q count (power - 1)

def shortest (significand : Nat) (exponent : Int) : Decimal :=
  let q := Binary64.magnitude significand exponent
  trim 20 (search (intervalOf significand exponent) q 16 (leadingPower q))

def rounded (count : Nat) (significand : Nat) (exponent : Int) : Decimal :=
  let q := Binary64.magnitude significand exponent
  let power := leadingPower q - (count : Int) + 1
  trim (count + 1) ⟨(Fraction.scaleTen q (-power)).toNearestUp, power⟩

def scientific (d : Decimal) : Int := d.power + (digitCount d.digits : Int) - 1

end Decimal

/-- How a format lays out decimal digits. Powers from `least` up to below `most` are positional. -/
structure DecimalLayout where
  least : Int
  most : Int
  /-- Whether a lone digit keeps a point and a zero before the exponent. -/
  pointBeforeExponent : Bool
  /-- Least count of exponent digits. -/
  exponentWidth : Nat

namespace DecimalLayout

def zeros (n : Nat) : String := String.ofList (List.replicate n '0')

def positional (d : Decimal) : String :=
  let digits := Nat.toDigits 10 d.digits
  match d.power with
  | .ofNat k => String.ofList digits ++ zeros k ++ ".0"
  | .negSucc k =>
    let places := k + 1
    if digits.length ≤ places then
      "0." ++ zeros (places - digits.length) ++ String.ofList digits
    else
      String.ofList (digits.take (digits.length - places)) ++ "." ++
        String.ofList (digits.drop (digits.length - places))

def exponentText (width : Nat) (e : Int) : String :=
  let digits := Nat.toDigits 10 e.natAbs
  "e" ++ (if e < 0 then "-" else "+") ++ zeros (width - digits.length) ++ String.ofList digits

def withExponent (layout : DecimalLayout) (d : Decimal) : String :=
  let tail := exponentText layout.exponentWidth d.scientific
  match Nat.toDigits 10 d.digits with
  | [] => "0" ++ tail
  | [c] => String.ofList [c] ++ (if layout.pointBeforeExponent then ".0" else "") ++ tail
  | c :: rest => String.ofList (c :: '.' :: rest) ++ tail

def render (layout : DecimalLayout) (d : Decimal) : String :=
  if layout.least ≤ d.scientific ∧ d.scientific < layout.most then positional d
  else withExponent layout d

end DecimalLayout

end Analytics
