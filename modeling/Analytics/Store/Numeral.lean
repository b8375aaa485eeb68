import Analytics.Number.Reading

/-!
Numbers that texts begin with. Blanks may stand around a number; what follows it does not count where
a number is wanted at any price, and decides where a text is asked whether it is a number.
-/

namespace Analytics

structure Numeral where
  negative : Bool
  written : WrittenDecimal
  /-- Neither point nor exponent. -/
  isWhole : Bool
  /-- The whole text is a number. -/
  isComplete : Bool

namespace Numeral

def isSpace (c : Char) : Bool := c = ' ' || (9 ≤ c.toNat && c.toNat ≤ 13)

def splitFraction : List Char → Option (List Char) × List Char
  | '.' :: rest => (some (rest.takeWhile Digits.isDigit), rest.dropWhile Digits.isDigit)
  | cs => (none, cs)

/-- An exponent that is begun: its value, whether it has digits, and the text after it. -/
def splitExponent : List Char → Option (Int × Bool) × List Char
  | c :: rest =>
    if c = 'e' || c = 'E' then
      let (negative, body) := Digits.splitSign rest
      let digits := body.takeWhile Digits.isDigit
      let size : Int := (min (Digits.toNat digits) 10000 : Nat)
      (some (if negative then -size else size, !digits.isEmpty), body.dropWhile Digits.isDigit)
    else (none, c :: rest)
  | [] => (none, [])

def ofText (s : String) : Numeral :=
  let (negative, body) := Digits.splitSign (s.toList.dropWhile isSpace)
  let whole := body.takeWhile Digits.isDigit
  let (fraction, rest) := splitFraction (body.dropWhile Digits.isDigit)
  let (exponent, rest) := splitExponent rest
  let hasDigits := !whole.isEmpty || !(fraction.getD []).isEmpty
  let exponentIsGood := match exponent with
    | some (_, good) => good
    | none => true
  { negative := negative
    written := ⟨whole, fraction.getD [], (exponent.map (·.1)).getD 0⟩
    isWhole := fraction.isNone && exponent.isNone
    isComplete := hasDigits && exponentIsGood && (rest.dropWhile isSpace).isEmpty }

def toFloat (n : Numeral) : Binary64 := Binary64.ofWritten n.negative n.written

def toInt (n : Numeral) : Int :=
  let size : Int := Digits.toNat n.written.whole
  if n.negative then -size else size

end Numeral

end Analytics
