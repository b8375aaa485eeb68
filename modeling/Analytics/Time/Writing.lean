import Analytics.Time.Instant

/-!
Text of dates and times: four-digit years with a sign outside 0 to 9999, and RFC 3339 instants with
as many fraction digits as they need.
-/

namespace Analytics

/-- Decimal digits of a number, with zeros in front up to a width. -/
def padded (width : Nat) (n : Nat) : String :=
  let digits := Nat.toDigits 10 n
  String.ofList (List.replicate (width - digits.length) '0' ++ digits)

def yearText (year : Int) : String :=
  if 0 ≤ year ∧ year ≤ 9999 then padded 4 year.natAbs
  else (if year < 0 then "-" else "+") ++ padded 4 year.natAbs

namespace Date

def text (d : Date) : String :=
  yearText d.year ++ "-" ++ padded 2 d.month ++ "-" ++ padded 2 d.day

end Date

namespace WallTime

def clockText (t : WallTime) : String :=
  padded 2 t.hour ++ ":" ++ padded 2 t.minute ++ ":" ++ padded 2 t.second

def dateTimeText (t : WallTime) : String := t.date.text ++ " " ++ t.clockText

end WallTime

namespace Instant

def utc (t : Instant) : WallTime := t.toWall 0

def dateText (t : Instant) : String := t.utc.date.text

def dateTimeText (t : Instant) : String := t.utc.dateTimeText

/-- The fraction of a second in 0, 3, 6 or 9 digits, the fewest that hold it. -/
def fractionText (nanos : Nat) : String :=
  let nanos := nanos % nanosPerSecond
  if nanos = 0 then ""
  else if nanos % 1000000 = 0 then "." ++ padded 3 (nanos / 1000000)
  else if nanos % 1000 = 0 then "." ++ padded 6 (nanos / 1000)
  else "." ++ padded 9 nanos

def rfc3339 (t : Instant) : String :=
  t.dateText ++ "T" ++ t.utc.clockText ++ fractionText t.nanos ++ "Z"

end Instant

end Analytics
