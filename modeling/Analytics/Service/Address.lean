import Analytics.Number.Reading

/-!
Addresses to listen on: a numeric host and a port. Hosts are read in every numeric form and written
in the canonical one.
-/

namespace Analytics

inductive HostAddress where
  /-- An address of 32 bits. -/
  | dotted (bits : Nat)
  /-- An address of eight groups of 16 bits, and the interface it is reached through; 0 is any. -/
  | grouped (groups : List Nat) (scope : Nat)
  deriving DecidableEq, Repr

structure ListenAddress where
  host : HostAddress
  port : Nat
  deriving DecidableEq, Repr

namespace HostAddress

def dottedText (bits : Nat) : String :=
  toString (bits / 16777216) ++ "." ++ toString (bits / 65536 % 256) ++ "."
    ++ toString (bits / 256 % 256) ++ "." ++ toString (bits % 256)

def hexText (n : Nat) : String := String.ofList (Nat.toDigits 16 n)

def longestZeros (place : Nat) : List Nat → Nat × Nat
  | [] => (place, 0)
  | g :: rest =>
    let here := ((g :: rest).takeWhile (· = 0)).length
    let later := longestZeros (place + 1) rest
    if later.2 ≤ here then (place, here) else later

def colons (groups : List Nat) : String := String.intercalate ":" (groups.map hexText)

def groupedText (groups : List Nat) : String :=
  match groups with
  | [0, 0, 0, 0, 0, 0xFFFF, high, low] => "::ffff:" ++ dottedText (high * 65536 + low)
  | _ =>
    let (place, count) := longestZeros 0 groups
    if 1 < count then colons (groups.take place) ++ "::" ++ colons (groups.drop (place + count))
    else colons groups

/-- The number of a part of a dotted address: decimal, octal behind a zero, or hexadecimal. -/
def partValue? (cs : List Char) : Option Nat :=
  let digit (c : Char) : Option Nat :=
    if Digits.isDigit c then some (c.toNat - 48)
    else if 'a' ≤ c && c ≤ 'f' then some (c.toNat - 87)
    else if 'A' ≤ c && c ≤ 'F' then some (c.toNat - 55)
    else none
  let number (base : Nat) (digits : List Char) : Option Nat :=
    digits.foldl (fun n c => match n, digit c with
      | some n, some d => if d < base then some (n * base + d) else none
      | _, _ => none) (some 0)
  match cs with
  | [] => none
  | ['0'] => some 0
  | '0' :: x :: rest =>
    if x = 'x' || x = 'X' then (if rest.isEmpty then none else number 16 rest)
    else number 8 (x :: rest)
  | _ => number 10 cs

def splitOn (mark : Char) : List Char → List (List Char)
  | [] => [[]]
  | c :: rest =>
    match splitOn mark rest with
    | [] => [[]]
    | part :: parts => if c = mark then [] :: part :: parts else (c :: part) :: parts

/-- A dotted address of one to four parts, of which the last fills what is left. -/
def dotted? (cs : List Char) : Option HostAddress :=
  match (splitOn '.' cs).mapM partValue? with
  | some [a] => if a < wordCount32 then some (.dotted a) else none
  | some [a, b] => if a < 256 ∧ b < 16777216 then some (.dotted (a * 16777216 + b)) else none
  | some [a, b, c] =>
    if a < 256 ∧ b < 256 ∧ c < 65536 then some (.dotted (a * 16777216 + b * 65536 + c)) else none
  | some [a, b, c, d] =>
    if a < 256 ∧ b < 256 ∧ c < 256 ∧ d < 256 then
      some (.dotted (a * 16777216 + b * 65536 + c * 256 + d))
    else none
  | _ => none

def hexGroup? (cs : List Char) : Option Nat :=
  let digit (c : Char) : Option Nat :=
    if Digits.isDigit c then some (c.toNat - 48)
    else if 'a' ≤ c && c ≤ 'f' then some (c.toNat - 87)
    else if 'A' ≤ c && c ≤ 'F' then some (c.toNat - 55)
    else none
  if cs.isEmpty || 4 < cs.length then none
  else cs.foldl (fun n c => match n, digit c with
    | some n, some d => some (n * 16 + d)
    | _, _ => none) (some 0)

def byte? (cs : List Char) : Option Nat :=
  if cs.isEmpty || 3 < cs.length || !cs.all Digits.isDigit then none
  else if cs.length ≠ 1 && cs.head? = some '0' then none
  else if Digits.toNat cs < 256 then some (Digits.toNat cs) else none

/-- The groups of a list of parts, of which the last may be four bytes in decimal. -/
def groupsOf? : List (List Char) → Option (List Nat)
  | [] => some []
  | [last] =>
    match hexGroup? last with
    | some g => some [g]
    | none =>
      match (splitOn '.' last).mapM byte? with
      | some [a, b, c, d] => some [a * 256 + b, c * 256 + d]
      | _ => none
  | part :: rest =>
    match hexGroup? part, groupsOf? rest with
    | some g, some groups => some (g :: groups)
    | _, _ => none

def splitGap : List Char → Option (List Char × List Char)
  | ':' :: ':' :: rest => some ([], rest)
  | c :: rest => (splitGap rest).map fun (before, after) => (c :: before, after)
  | [] => none

def groupsOfText? (cs : List Char) : Option (List Nat) :=
  if cs.isEmpty then some [] else groupsOf? (splitOn ':' cs)

def groups? (cs : List Char) : Option (List Nat) :=
  match splitGap cs with
  | none =>
    match groupsOfText? cs with
    | some groups => if groups.length = 8 then some groups else none
    | none => none
  | some (before, after) =>
    if before.contains '.' then none
    else match groupsOfText? before, groupsOfText? after with
      | some front, some back =>
        if front.length + back.length ≤ 7 then
          some (front ++ List.replicate (8 - front.length - back.length) 0 ++ back)
        else none
      | _, _ => none

def scoped? (cs : List Char) : Option HostAddress :=
  let scope := cs.dropWhile (· ≠ '%')
  match scope with
  | [] => (groups? cs).map (.grouped · 0)
  | _ :: digits =>
    if digits.isEmpty || !digits.all Digits.isDigit || wordCount32 ≤ Digits.toNat digits then none
    else (groups? (cs.takeWhile (· ≠ '%'))).map (.grouped · (Digits.toNat digits))

def parse? (cs : List Char) : Option HostAddress :=
  match cs with
  | '[' :: rest => if rest.getLast? = some ']' then scoped? rest.dropLast else none
  | _ => (dotted? cs).orElse fun _ => scoped? cs

def text : HostAddress → String
  | .dotted bits => dottedText bits
  | .grouped groups 0 => "[" ++ groupedText groups ++ "]"
  | .grouped groups scope => "[" ++ groupedText groups ++ "%" ++ toString scope ++ "]"

end HostAddress

namespace ListenAddress

def splitPort (cs : List Char) : Option (List Char × List Char) :=
  let port := (cs.reverse.takeWhile (· ≠ ':')).reverse
  if port.length < cs.length then some (cs.take (cs.length - port.length - 1), port) else none

/-- A host and a port; the port of a host in brackets has no sign. -/
def parse? (s : String) : Option ListenAddress :=
  match splitPort s.toList with
  | none => none
  | some (host, port) =>
    if host.head? = some '[' && port.head? = some '+' then none
    else match HostAddress.parse? host, Digits.toBounded? wordCount16 (String.ofList port) with
      | some host, some port => some ⟨host, port⟩
      | _, _ => none

def text (a : ListenAddress) : String := a.host.text ++ ":" ++ toString a.port

end ListenAddress

end Analytics
