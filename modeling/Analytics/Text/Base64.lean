/-!
Bytes as text of 64 letters. Three bytes make four letters; one or two bytes at the end make two or
three, and reading refuses letters with bits that no byte has.
-/

namespace Analytics

/-- A choice of the last two letters, and whether short ends are filled up to four. -/
structure Base64 where
  letter62 : Char
  letter63 : Char
  filled : Bool
  deriving DecidableEq, Repr

namespace Base64

def urlSafe : Base64 := ⟨'-', '_', false⟩

def standard : Base64 := ⟨'+', '/', true⟩

/-- The letter of a six-bit number. -/
def letter (b : Base64) (n : Nat) : Char :=
  if n < 26 then Char.ofNat (n + 65)
  else if n < 52 then Char.ofNat (n + 71)
  else if n < 62 then Char.ofNat (n - 4)
  else if n = 62 then b.letter62
  else b.letter63

def value? (b : Base64) (c : Char) : Option Nat :=
  if 'A' ≤ c && c ≤ 'Z' then some (c.toNat - 65)
  else if 'a' ≤ c && c ≤ 'z' then some (c.toNat - 71)
  else if '0' ≤ c && c ≤ '9' then some (c.toNat + 4)
  else if c = b.letter62 then some 62
  else if c = b.letter63 then some 63
  else none

def fill (b : Base64) (count : Nat) : List Char := if b.filled then List.replicate count '=' else []

def encode (b : Base64) : List UInt8 → List Char
  | x :: y :: z :: rest =>
    let n := (x.toNat * 256 + y.toNat) * 256 + z.toNat
    b.letter (n / 262144) :: b.letter (n / 4096 % 64) :: b.letter (n / 64 % 64) :: b.letter (n % 64)
      :: b.encode rest
  | [x, y] =>
    let n := (x.toNat * 256 + y.toNat) * 4
    b.letter (n / 4096) :: b.letter (n / 64 % 64) :: b.letter (n % 64) :: b.fill 1
  | [x] =>
    let n := x.toNat * 16
    b.letter (n / 64) :: b.letter (n % 64) :: b.fill 2
  | [] => []

def decode? (b : Base64) : List Char → Option (List UInt8)
  | c :: d :: e :: f :: rest =>
    match b.value? c, b.value? d, b.value? e, b.value? f with
    | some w, some x, some y, some z =>
      let n := ((w * 64 + x) * 64 + y) * 64 + z
      (b.decode? rest).map fun bytes =>
        UInt8.ofNat (n / 65536) :: UInt8.ofNat (n / 256 % 256) :: UInt8.ofNat (n % 256) :: bytes
    | _, _, _, _ => none
  | [c, d, e] =>
    match b.value? c, b.value? d, b.value? e with
    | some w, some x, some y =>
      let n := (w * 64 + x) * 64 + y
      if n % 4 = 0 then some [UInt8.ofNat (n / 1024), UInt8.ofNat (n / 4 % 256)] else none
    | _, _, _ => none
  | [c, d] =>
    match b.value? c, b.value? d with
    | some w, some x =>
      let n := w * 64 + x
      if n % 16 = 0 then some [UInt8.ofNat (n / 16)] else none
    | _, _ => none
  | [_] => none
  | [] => some []

end Base64

end Analytics
