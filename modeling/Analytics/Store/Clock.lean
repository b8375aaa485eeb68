import Analytics.Request.Kind
import Analytics.Store.Cell
import Analytics.Time.Unit
import Analytics.Time.Writing

/-!
Dates and clocks of stored values. A value is read as a time: text that writes a date, a clock or
both, or a number of days. Times are milliseconds from the start of 1970, within the years -4713 to
9999; anything else is null. A text to which nothing is added is shown by its own parts, which may be
other than those of its time: its fraction is cut where the time rounds it.
-/

namespace Analytics.Clock

def epochHalfDays : Int := 4881175

def epochMillis : Int := epochHalfDays * 43200000

/-- The first millisecond behind the year 9999, counted from the zero of day numbers. -/
def endMillis : Int := 464269060800000

def isValid (millis : Int) : Bool :=
  0 ≤ millis + epochMillis && millis + epochMillis < endMillis

def valid? (millis : Int) : Option Int := if isValid millis then some millis else none

def digits? (count : Nat) (least most : Nat) (cs : List Char) : Option (Nat × List Char) :=
  let taken := cs.take count
  if taken.length = count && taken.all Digits.isDigit && least ≤ Digits.toNat taken
      && Digits.toNat taken ≤ most then
    some (Digits.toNat taken, cs.drop count)
  else none

def expect (c : Char) : List Char → Option (List Char)
  | d :: rest => if c = d then some rest else none
  | [] => none

def zone? (cs : List Char) : Option Int :=
  let signed (sign : Int) (cs : List Char) : Option Int := do
    let (hours, cs) ← digits? 2 0 14 cs
    let cs ← expect ':' cs
    let (minutes, cs) ← digits? 2 0 59 cs
    if (cs.dropWhile Numeral.isSpace).isEmpty then
      pure (sign * ((hours * 60 + minutes : Nat) : Int))
    else none
  match cs.dropWhile Numeral.isSpace with
  | [] => some 0
  | '-' :: rest => signed (-1) rest
  | '+' :: rest => signed 1 rest
  | c :: rest =>
    if (c = 'Z' || c = 'z') && (rest.dropWhile Numeral.isSpace).isEmpty then some 0 else none

def half : Binary64 := Binary64.ofDecimal false 5 (-1)

def wholePart (x : Binary64) : Int :=
  match x with
  | .finite _ m e => let q := Binary64.magnitude m e; ((q.1 / q.2 : Nat) : Int)
  | _ => 0

/-- Digits of a fraction, taken up one by one, and the power of ten that they are parts of. -/
def fraction (part scale : Binary64) : List Char → Binary64 × List Char
  | c :: rest =>
    if Digits.isDigit c then
      -- The code of zero is taken off last, and every sum is rounded on its own.
      fraction (((part.mul (.ofInt 10)).add (.ofInt c.toNat)).add (.ofInt (-48)))
        (scale.mul (.ofInt 10)) rest
    else (part.div scale, c :: rest)
  | [] => (part.div scale, [])

def second? (cs : List Char) : Option (Binary64 × List Char) := do
  let (whole, cs) ← digits? 2 0 59 cs
  match cs with
  | '.' :: c :: rest =>
    if Digits.isDigit c then
      let (part, rest) := fraction .zero (.ofInt 1) (c :: rest)
      let second := (Binary64.ofInt whole).add part
      if second.isFinite then pure (second, rest) else none
    else pure (.ofInt whole, '.' :: c :: rest)
  | cs => pure (.ofInt whole, cs)

structure Hands where
  hour : Nat
  minute : Nat
  second : Binary64
  /-- Minutes ahead of universal time. -/
  ahead : Int
  deriving Repr

def Hands.millis (h : Hands) : Int :=
  ((h.hour * 3600000 + h.minute * 60000 : Nat) : Int)
    + wholePart ((h.second.mul (.ofInt 1000)).add half) - h.ahead * 60000

def clock? (cs : List Char) : Option Hands := do
  let (hour, cs) ← digits? 2 0 24 cs
  let cs ← expect ':' cs
  let (minute, cs) ← digits? 2 0 59 cs
  let (second, cs) ← match cs with
    | ':' :: rest => second? rest
    | cs => some (.zero, cs)
  let ahead ← zone? cs
  pure ⟨hour, minute, second, ahead⟩

/-- A date with four digits of the year, as it is written. -/
def date? (cs : List Char) : Option (Date × List Char) := do
  let (negative, cs) := match cs with
    | '-' :: rest => (true, rest)
    | cs => (false, cs)
  let (year, cs) ← digits? 4 0 9999 cs
  let cs ← expect '-' cs
  let (month, cs) ← digits? 2 1 12 cs
  let cs ← expect '-' cs
  let (day, cs) ← digits? 2 1 31 cs
  let year : Int := if negative then -year else year
  if -4713 ≤ year then pure (⟨year, month, day⟩, cs) else none

structure Written where
  date : Option Date
  clock : Option Hands
  deriving Repr

def written? (cs : List Char) : Option Written :=
  match date? cs with
  | some (date, rest) =>
    match rest.dropWhile fun c => Numeral.isSpace c || c = 'T' with
    | [] => some ⟨some date, none⟩
    | clock => (clock? clock).map fun clock => ⟨some date, some clock⟩
  | none => (clock? cs).map fun clock => ⟨none, some clock⟩

def reading (millis : Int) : WallTime := ⟨millis / 1000, 0⟩

/-- A date and a clock as texts show them; the clock may stand at 24 hours and at 60 seconds. -/
structure Shown where
  date : Date
  hour : Nat
  minute : Nat
  second : Nat
  deriving DecidableEq, Repr

namespace Shown

def ofMillis (millis : Int) : Shown :=
  let t := reading millis
  ⟨t.date, t.hour, t.minute, t.second⟩

def text (s : Shown) : String :=
  s.date.text ++ " " ++ (padded 2 s.hour ++ ":" ++ padded 2 s.minute ++ ":" ++ padded 2 s.second)

end Shown

namespace Written

/-- Days that a month lacks run into the next one, and so does a clock at 24 hours. -/
def millis (w : Written) : Int :=
  (w.date.getD ⟨2000, 1, 1⟩).toDay * 86400000 + (w.clock.map Hands.millis).getD 0

/-- What the text shows where nothing is added to it: in universal time its own parts, the date up to
the 28th of a month. -/
def shown (w : Written) : Shown :=
  let counted := Shown.ofMillis w.millis
  match w.clock with
  | none => counted
  | some clock =>
    if clock.ahead ≠ 0 then counted
    else
      let date := match w.date with
        | some date => if date.day ≤ 28 then Date.ofDay date.toDay else counted.date
        | none => counted.date
      ⟨date, clock.hour, clock.minute, (wholePart clock.second).toNat⟩

end Written

def isBelow (x : Binary64) (i : Int) : Bool := Binary64.compareInt? i x = some .gt

def isNegative (x : Binary64) : Bool := Binary64.compareInt? 0 x = some .gt

def days? (x : Binary64) : Option Int :=
  -- Twice the number of days, as the last of them ends at noon.
  let doubled := x.add x
  if isNegative x || !isBelow doubled 10746969 then none
  else some (wholePart ((x.mul (.ofInt 86400000)).add half) - epochMillis)

def seconds? (x : Binary64) : Option Int :=
  let millis := (x.mul (.ofInt 1000)).add (.ofInt epochMillis)
  if isNegative millis || !isBelow millis endMillis then none
  else some (wholePart (millis.add half) - epochMillis)

def rawNumber? (s : String) : Option Binary64 :=
  match written? s.toList with
  | some _ => none
  | none =>
    let n := Numeral.ofText s
    if n.isComplete then some n.toFloat else none

def writtenBy? (c : Cell) : Option Written :=
  match c with
  | .null | .int _ | .real _ => none
  | _ => written? (c.text?.getD "").toList

def moment? (c : Cell) : Option Int :=
  match c with
  | .null => none
  | .int i => if 0 ≤ i ∧ i ≤ 5373484 then some (i * 86400000 - epochMillis) else none
  | .real x => days? x
  | _ =>
    match writtenBy? c with
    | some written => some written.millis
    | none => (rawNumber? (c.text?.getD "")).bind days?

def time? (c : Cell) : Option Int := (moment? c).bind valid?

def epochTime? (c : Cell) : Option Int :=
  match c with
  | .null => none
  | .int i => valid? (i * 1000)
  | .real x => seconds? x
  | _ => (rawNumber? (c.text?.getD "")).bind seconds?

def thousandth (c : Cell) : Cell :=
  match c with
  | .null => .null
  | .int i => .int (i.tdiv 1000)
  | .real x => .real (x.div (.ofInt 1000))
  | _ =>
    let n := Numeral.ofText (c.text?.getD "")
    if n.isWhole && fitsWord n.toInt then .int (n.toInt.tdiv 1000)
    else .real (n.toFloat.div (.ofInt 1000))

def later? (minutes : Int) (millis : Int) : Option Int := valid? (millis + minutes * 60000)

def shown? (c : Cell) : Option Shown :=
  (time? c).map fun millis => ((writtenBy? c).map Written.shown).getD (.ofMillis millis)

def ofOption {α : Type} (f : α → String) : Option α → Cell
  | some a => .text (f a)
  | none => .null

def dateTime (c : Cell) : Cell := ofOption Shown.text (shown? c)

/-- A value as a date. -/
def date (c : Cell) : Cell := ofOption (fun s => s.date.text) (shown? c)

def localTime? (encoding : TimestampEncoding) (shift : Int) (c : Cell) : Option Int :=
  match encoding with
  | .timestamp => (epochTime? c).bind (later? shift)
  | .timestampMs => (epochTime? (thousandth c)).bind (later? shift)
  | .datetime => (moment? c).bind (later? shift)
  | .date => (shown? c).bind fun s => valid? (s.date.toDay * 86400000)

def labelYear (year : Int) : String :=
  if year < 0 then "-" ++ padded 3 year.natAbs else padded 4 year.natAbs

def labelText (unit : TimeUnit) (t : WallTime) : String :=
  let year := labelYear t.date.year
  let month := year ++ "-" ++ padded 2 t.date.month
  let day := month ++ "-" ++ padded 2 t.date.day
  match unit with
  | .minute => day ++ " " ++ padded 2 t.hour ++ ":" ++ padded 2 t.minute ++ ":00"
  | .hour => day ++ " " ++ padded 2 t.hour ++ ":00:00"
  | .day => day
  | .month => month ++ "-01"
  | .year => year ++ "-01-01"

/-- The label of a stored value. -/
def label (encoding : TimestampEncoding) (unit : TimeUnit) (shift : Int) (c : Cell) : Cell :=
  ofOption (fun millis => labelText unit (reading millis)) (localTime? encoding shift c)

end Analytics.Clock
