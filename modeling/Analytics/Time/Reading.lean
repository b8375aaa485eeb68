import Analytics.Number.Reading
import Analytics.Text.Blank
import Analytics.Time.Instant

/-!
Reading dates and times. Three grammars share their parts: RFC 3339 as written in the standard, a
relaxed form of it that allows blanks and signed years, and plain dates and date-times.
-/

namespace Analytics.TimeReading

open Analytics.Text (trimLeft isBlank)

abbrev Step (α : Type) := Option (α × List Char)

/-- Digits from `least` to `most` in number. -/
def number (least most : Nat) (cs : List Char) : Step Nat :=
  let digits := (cs.take most).takeWhile Digits.isDigit
  if digits.length < least then none else some (Digits.toNat digits, cs.drop digits.length)

def expect (c : Char) : List Char → Option (List Char)
  | d :: rest => if c = d then some rest else none
  | [] => none

/-- One or two digits after blanks. -/
def field (cs : List Char) : Step Nat := number 1 2 (trimLeft cs)

/-- A year after blanks: any number of digits behind a sign, at most four without one. -/
def year (cs : List Char) : Step Int :=
  match trimLeft cs with
  | '-' :: rest => (number 1 rest.length rest).map fun (n, rest) => (-(n : Int), rest)
  | '+' :: rest => (number 1 rest.length rest).map fun (n, rest) => ((n : Int), rest)
  | cs => (number 1 4 cs).map fun (n, rest) => ((n : Int), rest)

def fraction : List Char → Step Nat
  | '.' :: rest =>
    match number 1 9 rest with
    | some (n, after) =>
      some (n * tenPow (9 - (rest.length - after.length)), after.dropWhile Digits.isDigit)
    | none => none
  | cs => some (0, cs)

def offset (separator : List Char → Option (List Char)) (cs : List Char) : Step Int :=
  let signed (negative : Bool) (cs : List Char) : Option (Int × List Char) := do
    let (hours, cs) ← number 2 2 cs
    let cs ← separator cs
    let (minutes, cs) ← number 2 2 cs
    if minutes < 60 ∧ hours < 24 then
      let size : Int := (hours * 3600 + minutes * 60 : Nat)
      pure (if negative then -size else size, cs)
    else none
  match cs with
  | 'z' :: rest => some (0, rest)
  | 'Z' :: rest => some (0, rest)
  | '+' :: rest => signed false rest
  | '-' :: rest => signed true rest
  | '−' :: rest => signed true rest
  | u :: t :: c :: rest =>
    if Text.lowerChar u = 'u' && Text.lowerChar t = 't' && Text.lowerChar c = 'c' then
      some (0, rest)
    else none
  | _ => none

/-- The reading that the parts of a date and a clock make, if they exist. Second 60 is a leap
second. -/
def wallTime? (date : Date) (hour minute second nanos : Nat) : Option WallTime :=
  if date.isValid && hour < 24 && minute < 60 && second ≤ 60 then
    let clock := hour * 3600 + minute * 60 + min second 59
    let leap := if second = 60 then nanosPerSecond else 0
    some ⟨date.toDay * 86400 + (clock : Nat), nanos + leap⟩
  else none

def separatorMark : List Char → Option (List Char)
  | 'T' :: rest => some rest
  | 't' :: rest => some rest
  | ' ' :: rest => some rest
  | _ => none

def instant? (t : WallTime) (offset : Int) : Option Instant :=
  let instant := t.toInstant offset
  if Instant.inRange instant.seconds then some instant else none

def strict? (cs : List Char) : Option Instant := do
  let (y, cs) ← number 4 4 cs
  let cs ← expect '-' cs
  let (m, cs) ← number 2 2 cs
  let cs ← expect '-' cs
  let (d, cs) ← number 2 2 cs
  let cs ← separatorMark cs
  let (h, cs) ← number 2 2 cs
  let cs ← expect ':' cs
  let (mi, cs) ← number 2 2 cs
  let cs ← expect ':' cs
  let (s, cs) ← number 2 2 cs
  let (n, cs) ← fraction cs
  let (o, cs) ← offset (expect ':') cs
  if cs.isEmpty then
    let t ← wallTime? ⟨y, m, d⟩ h mi s n
    instant? t o
  else none

def relaxed? (cs : List Char) : Option Instant := do
  let (y, cs) ← year cs
  let cs ← expect '-' (trimLeft cs)
  let (m, cs) ← field cs
  let cs ← expect '-' (trimLeft cs)
  let (d, cs) ← field cs
  let cs ← separatorMark cs
  let (h, cs) ← field cs
  let cs ← expect ':' (trimLeft cs)
  let (mi, cs) ← field cs
  let cs ← expect ':' (trimLeft cs)
  let (s, cs) ← field cs
  let (n, cs) ← fraction cs
  let (o, cs) ← offset (fun cs => some (cs.dropWhile fun c => c = ':' || isBlank c)) (trimLeft cs)
  if (trimLeft cs).isEmpty then
    let t ← wallTime? ⟨y, m, d⟩ h mi s n
    instant? t o
  else none

def date (cs : List Char) : Option (Date × List Char) := do
  let (y, cs) ← year cs
  let cs ← expect '-' cs
  let (m, cs) ← field cs
  let cs ← expect '-' cs
  let (d, cs) ← field cs
  pure (⟨y, m, d⟩, cs)

def dateTime? (cs : List Char) : Option Instant := do
  let (d, cs) ← date cs
  let (h, cs) ← field (trimLeft cs)
  let cs ← expect ':' cs
  let (m, cs) ← field cs
  let cs ← expect ':' cs
  let (s, cs) ← field cs
  if cs.isEmpty then
    let t ← wallTime? d h m s 0
    pure (t.toInstant 0)
  else none

def date? (cs : List Char) : Option Instant := do
  let (d, cs) ← date cs
  if cs.isEmpty && d.isValid then some ((WallTime.ofDate d).toInstant 0) else none

def instantText? (cs : List Char) : Option Instant :=
  (strict? cs).orElse fun _ => (dateTime? cs).orElse fun _ => date? cs

end Analytics.TimeReading
