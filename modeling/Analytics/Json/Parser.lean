import Analytics.Json.Value
import Analytics.Number.Reading

/-!
Reading JSON text. Objects keep their members as written, repeated keys included. Containers nest at
most 127 deep.
-/

namespace Analytics.Json

def isGap (c : Char) : Bool := c = ' ' || c = '\n' || c = '\t' || c = '\r'

def skipGaps (cs : List Char) : List Char := cs.dropWhile isGap

def hexValue? (c : Char) : Option Nat :=
  if '0' ≤ c && c ≤ '9' then some (c.toNat - 48)
  else if 'a' ≤ c && c ≤ 'f' then some (c.toNat - 87)
  else if 'A' ≤ c && c ≤ 'F' then some (c.toNat - 55)
  else none

def hexUnit? (a b c d : Char) : Option Nat := do
  let a ← hexValue? a
  let b ← hexValue? b
  let c ← hexValue? c
  let d ← hexValue? d
  pure (((a * 16 + b) * 16 + c) * 16 + d)

def shortEscape? (c : Char) : Option Char :=
  if c = '"' || c = '\\' || c = '/' then some c
  else if c = 'b' then some '\x08'
  else if c = 'f' then some '\x0c'
  else if c = 'n' then some '\n'
  else if c = 'r' then some '\r'
  else if c = 't' then some '\t'
  else none

def isHighSurrogate (n : Nat) : Bool := 0xD800 ≤ n && n < 0xDC00
def isLowSurrogate (n : Nat) : Bool := 0xDC00 ≤ n && n < 0xE000

/-- The characters of a string after its opening quote, and the text after its closing quote. -/
def readString (done : List Char) : List Char → Option (List Char × List Char)
  | '"' :: rest => some (done.reverse, rest)
  | '\\' :: 'u' :: a :: b :: c :: d :: '\\' :: 'u' :: e :: f :: g :: h :: rest =>
    match hexUnit? a b c d with
    | none => none
    | some high =>
      if isHighSurrogate high then
        match hexUnit? e f g h with
        | none => none
        | some low =>
          if isLowSurrogate low then
            readString (Char.ofNat (0x10000 + (high - 0xD800) * 0x400 + (low - 0xDC00)) :: done) rest
          else none
      else if isLowSurrogate high then none
      else readString (Char.ofNat high :: done) ('\\' :: 'u' :: e :: f :: g :: h :: rest)
  | '\\' :: 'u' :: a :: b :: c :: d :: rest =>
    match hexUnit? a b c d with
    | none => none
    | some unit =>
      if isHighSurrogate unit || isLowSurrogate unit then none
      else readString (Char.ofNat unit :: done) rest
  | '\\' :: c :: rest =>
    match shortEscape? c with
    | none => none
    | some meaning => readString (meaning :: done) rest
  | c :: rest => if c.toNat < 32 then none else readString (c :: done) rest
  | [] => none

def powerOfTen (n : Nat) : Binary64 := Binary64.ofDecimal false 1 n

def scaleFloat : Nat → Binary64 → Int → Option Binary64
  | 0, _, _ => none
  | steps + 1, x, e =>
    if e.natAbs ≤ 308 then
      let scaled := if 0 ≤ e then x.mul (powerOfTen e.natAbs) else x.div (powerOfTen e.natAbs)
      if scaled.isFinite then some scaled else none
    else if x.toInt? = some 0 then some x
    else if 0 ≤ e then none
    else scaleFloat steps (x.div (powerOfTen 308)) (e + 308)

def wordDigits : Nat → List Char → Nat × Nat
  | n, [] => (n, 0)
  | n, c :: rest =>
    let next := n * 10 + Digits.value c
    if next < wordCount64 then wordDigits next rest else (n, rest.length + 1)

def floatOf (negative : Bool) (whole fraction : List Char) (exponent : Int) : Option Json :=
  let (significand, power) :=
    let (n, left) := wordDigits 0 whole
    if left = 0 then
      let (m, dropped) := wordDigits n fraction
      (m, exponent - ((fraction.length - dropped : Nat) : Int))
    else (n, exponent + left)
  (scaleFloat (power.natAbs / 308 + 2) (Binary64.ofInt significand) power).map fun x =>
    .float (if negative then x.neg else x)

/-- A literal without point or exponent: a whole number if it fits a 64-bit word, else floating.
Minus zero is floating. -/
def wholeOf (negative : Bool) (whole : List Char) : Option Json :=
  let n := Digits.toNat whole
  if negative then
    if 0 < n ∧ leastWord ≤ -(n : Int) then some (.int (-(n : Int))) else floatOf true whole [] 0
  else if n < wordCount64 then some (.int n) else floatOf false whole [] 0

def readExponent (cs : List Char) : Option (Int × List Char) :=
  let (negative, body) := Digits.splitSign cs
  let digits := body.takeWhile Digits.isDigit
  if digits.isEmpty then none
  else
    let size := min (Digits.toNat digits) 100000
    some ((if negative then -(size : Int) else size), body.dropWhile Digits.isDigit)

def readNumber (negative : Bool) (cs : List Char) : Option (Json × List Char) :=
  let whole := cs.takeWhile Digits.isDigit
  let rest := cs.dropWhile Digits.isDigit
  if whole.isEmpty || (whole.length ≠ 1 && whole.head? = some '0') then none
  else
    let fraction? : Option (List Char × List Char) := match rest with
      | '.' :: after =>
        let fraction := after.takeWhile Digits.isDigit
        if fraction.isEmpty then none else some (fraction, after.dropWhile Digits.isDigit)
      | _ => some ([], rest)
    match fraction? with
    | none => none
    | some (fraction, rest) =>
      match rest with
      | c :: after =>
        if c = 'e' || c = 'E' then
          match readExponent after with
          | none => none
          | some (e, rest) => (floatOf negative whole fraction e).map (·, rest)
        else if fraction.isEmpty then (wholeOf negative whole).map (·, rest)
        else (floatOf negative whole fraction 0).map (·, rest)
      | [] =>
        if fraction.isEmpty then (wholeOf negative whole).map (·, rest)
        else (floatOf negative whole fraction 0).map (·, rest)

mutual

/-- A value at the start of a text, and the text after it. Every call reads at least one character,
so `steps` larger than the text is enough; `depth` is how deep containers may still nest. -/
def readValue : Nat → Nat → List Char → Option (Json × List Char)
  | 0, _, _ => none
  | steps + 1, depth, cs =>
    match skipGaps cs with
    | 'n' :: 'u' :: 'l' :: 'l' :: rest => some (.null, rest)
    | 't' :: 'r' :: 'u' :: 'e' :: rest => some (.bool true, rest)
    | 'f' :: 'a' :: 'l' :: 's' :: 'e' :: rest => some (.bool false, rest)
    | '"' :: rest => (readString [] rest).map fun (s, rest) => (.text (String.ofList s), rest)
    | '-' :: rest => readNumber true rest
    | '[' :: rest =>
      if depth ≤ 1 then none
      else match skipGaps rest with
        | ']' :: rest => some (.array [], rest)
        | rest => (readItems steps (depth - 1) rest).map fun (items, rest) => (.array items, rest)
    | '{' :: rest =>
      if depth ≤ 1 then none
      else match skipGaps rest with
        | '}' :: rest => some (.object [], rest)
        | rest =>
          (readMembers steps (depth - 1) rest).map fun (members, rest) => (.object members, rest)
    | c :: rest => if Digits.isDigit c then readNumber false (c :: rest) else none
    | [] => none

def readItems : Nat → Nat → List Char → Option (List Json × List Char)
  | 0, _, _ => none
  | steps + 1, depth, cs =>
    match readValue steps depth cs with
    | none => none
    | some (item, rest) =>
      match skipGaps rest with
      | ']' :: rest => some ([item], rest)
      | ',' :: rest =>
        (readItems steps depth rest).map fun (items, rest) => (item :: items, rest)
      | _ => none

def readMembers : Nat → Nat → List Char → Option (List (String × Json) × List Char)
  | 0, _, _ => none
  | steps + 1, depth, cs =>
    match skipGaps cs with
    | '"' :: rest =>
      match readString [] rest with
      | none => none
      | some (key, rest) =>
        match skipGaps rest with
        | ':' :: rest =>
          match readValue steps depth rest with
          | none => none
          | some (value, rest) =>
            match skipGaps rest with
            | '}' :: rest => some ([(String.ofList key, value)], rest)
            | ',' :: rest =>
              (readMembers steps depth rest).map fun (members, rest) =>
                ((String.ofList key, value) :: members, rest)
            | _ => none
        | _ => none
    | _ => none

end

def nestingLimit : Nat := 128

def readFirst (cs : List Char) : Option (Json × List Char) :=
  readValue (2 * cs.length + 2) nestingLimit cs

/-- The value that a whole text writes. -/
def parse? (s : String) : Option Json :=
  match readFirst s.toList with
  | some (value, rest) => if (skipGaps rest).isEmpty then some value else none
  | none => none

end Analytics.Json
