import Analytics.Number.Word

/-!
Floating numbers of 64 bits as exact data. A finite number is a sign, a whole significand and a
power of two; every operation works on exact fractions and rounds once, to nearest, ties to even.
-/

namespace Analytics

inductive Binary64 where
  | finite (negative : Bool) (significand : Nat) (exponent : Int)
  | infinite (negative : Bool)
  | nan
  deriving DecidableEq, Repr, Inhabited

abbrev Fraction := Nat × Nat

namespace Fraction

def scale (q : Fraction) : Int → Fraction
  | .ofNat k => (q.1 * twoPow k, q.2)
  | .negSucc k => (q.1, q.2 * twoPow (k + 1))

def scaleTen (q : Fraction) : Int → Fraction
  | .ofNat k => (q.1 * tenPow k, q.2)
  | .negSucc k => (q.1, q.2 * tenPow (k + 1))

/-- The nearest whole number, a half going to the even neighbour. -/
def toNearest (q : Fraction) : Nat :=
  let whole := q.1 / q.2
  let rest := 2 * (q.1 % q.2)
  if rest < q.2 then whole
  else if q.2 < rest then whole + 1
  else if whole % 2 = 0 then whole else whole + 1

def toNearestUp (q : Fraction) : Nat :=
  (2 * q.1 + q.2) / (2 * q.2)

def le (p q : Fraction) : Bool := p.1 * q.2 ≤ q.1 * p.2

def lt (p q : Fraction) : Bool := p.1 * q.2 < q.1 * p.2

end Fraction

namespace Binary64

def leastExponent : Int := -1074
def greatestExponent : Int := 971

def leastNormal : Nat := 4503599627370496

def zero : Binary64 := .finite false 0 leastExponent

/-- The exponent at which a positive fraction has a significand of 53 bits, or the least one. -/
def exponentFor (q : Fraction) : Int :=
  let guess := (q.1.log2 : Int) - (q.2.log2 : Int) - 52
  let scaled := Fraction.scale q (-guess)
  let exact := if scaled.1 / scaled.2 < leastNormal then guess - 1 else guess
  max exact leastExponent

def round (negative : Bool) (q : Fraction) : Binary64 :=
  if q.1 = 0 then .finite negative 0 leastExponent
  else
    let exponent := exponentFor q
    let significand := (Fraction.scale q (-exponent)).toNearest
    let (significand, exponent) :=
      if significand = 2 * leastNormal then (leastNormal, exponent + 1) else (significand, exponent)
    if greatestExponent < exponent then .infinite negative
    else .finite negative significand exponent

def ofInt (i : Int) : Binary64 := round (i < 0) (i.natAbs, 1)

/-- The number nearest to `digits` times a power of ten. -/
def ofDecimal (negative : Bool) (digits : Nat) (power : Int) : Binary64 :=
  round negative (Fraction.scaleTen (digits, 1) power)

def isFinite : Binary64 → Bool
  | .finite .. => true
  | _ => false

def isNaN : Binary64 → Bool
  | .nan => true
  | _ => false

def isNegative : Binary64 → Bool
  | .finite negative .. => negative
  | .infinite negative => negative
  | .nan => false

def neg : Binary64 → Binary64
  | .finite negative m e => .finite (!negative) m e
  | .infinite negative => .infinite (!negative)
  | .nan => .nan

def magnitude (significand : Nat) (exponent : Int) : Fraction :=
  Fraction.scale (significand, 1) exponent

/-- A finite number as a whole multiple of `2 ^ exponent`, for an exponent at most its own. -/
def multiple (negative : Bool) (significand : Nat) (shift : Nat) : Int :=
  let size : Int := (significand * twoPow shift : Nat)
  if negative then -size else size

def add : Binary64 → Binary64 → Binary64
  | .nan, _ => .nan
  | _, .nan => .nan
  | .infinite s, .infinite t => if s = t then .infinite s else .nan
  | .infinite s, .finite .. => .infinite s
  | .finite .., .infinite t => .infinite t
  | .finite s m e, .finite t n f =>
    let low := min e f
    let total := multiple s m (e - low).toNat + multiple t n (f - low).toNat
    if total = 0 then .finite (s && t) 0 leastExponent
    else round (total < 0) (magnitude total.natAbs low)

/-- The product of two finite numbers, or the larger of two kinds otherwise. -/
def mul : Binary64 → Binary64 → Binary64
  | .finite s m e, .finite t n f => round (s != t) (magnitude (m * n) (e + f))
  | .nan, _ => .nan
  | _, .nan => .nan
  | .infinite s, .finite t n _ => if n = 0 then .nan else .infinite (s != t)
  | .finite s m _, .infinite t => if m = 0 then .nan else .infinite (s != t)
  | .infinite s, .infinite t => .infinite (s != t)

def div : Binary64 → Binary64 → Binary64
  | .finite s m e, .finite t n f =>
    if n = 0 then (if m = 0 then .nan else .infinite (s != t))
    else
      let top := magnitude m e
      let bottom := magnitude n f
      round (s != t) (top.1 * bottom.2, top.2 * bottom.1)
  | .nan, _ => .nan
  | _, .nan => .nan
  | .infinite s, .finite t _ _ => .infinite (s != t)
  | .finite s _ _, .infinite t => .finite (s != t) 0 leastExponent
  | .infinite _, .infinite _ => .nan

def compare? : Binary64 → Binary64 → Option Ordering
  | .nan, _ => none
  | _, .nan => none
  | .infinite s, .infinite t =>
    some (if s = t then .eq else if s then .lt else .gt)
  | .infinite s, .finite .. => some (if s then .lt else .gt)
  | .finite .., .infinite t => some (if t then .gt else .lt)
  | .finite s m e, .finite t n f =>
    let low := min e f
    some (compare (multiple s m (e - low).toNat) (multiple t n (f - low).toNat))

def compareInt? (i : Int) : Binary64 → Option Ordering
  | .nan => none
  | .infinite s => some (if s then .gt else .lt)
  | .finite s m e =>
    let low := min e 0
    some (compare (i * (twoPow (-low).toNat : Nat)) (multiple s m (e - low).toNat))

def toInt? : Binary64 → Option Int
  | .finite s m e =>
    let q := magnitude m e
    if q.1 % q.2 = 0 then some (multiple s (q.1 / q.2) 0) else none
  | _ => none

end Binary64

end Analytics
