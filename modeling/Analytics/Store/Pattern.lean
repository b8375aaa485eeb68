/-!
Patterns. A percent sign stands for any text, an underscore for any character, a backslash takes the
next character as it is; letters of the English alphabet match in either case.
-/

namespace Analytics.Pattern

def lowerLetter (c : Char) : Char := if 'A' ≤ c && c ≤ 'Z' then Char.ofNat (c.toNat + 32) else c

def sameLetter (c d : Char) : Bool := lowerLetter c = lowerLetter d

inductive Part where
  | anyText
  | anyChar
  | char (c : Char)
  deriving DecidableEq, Repr

/-- The parts of a pattern; none if it ends in the middle of an escape. -/
def parse? : List Char → Option (List Part)
  | [] => some []
  | '\\' :: c :: rest => (parse? rest).map (.char c :: ·)
  | ['\\'] => none
  | '%' :: rest => (parse? rest).map (.anyText :: ·)
  | '_' :: rest => (parse? rest).map (.anyChar :: ·)
  | c :: rest => (parse? rest).map (.char c :: ·)

def someEnd (test : List Char → Bool) : List Char → Bool
  | [] => test []
  | c :: rest => test (c :: rest) || someEnd test rest

def matchesParts : List Part → List Char → Bool
  | [], cs => cs.isEmpty
  | .anyText :: parts, cs => someEnd (matchesParts parts) cs
  | .anyChar :: parts, cs =>
    match cs with
    | [] => false
    | _ :: rest => matchesParts parts rest
  | .char c :: parts, cs =>
    match cs with
    | [] => false
    | d :: rest => sameLetter c d && matchesParts parts rest

def accepts (pattern text : String) : Bool :=
  match parse? pattern.toList with
  | some parts => matchesParts parts text.toList
  | none => false

end Analytics.Pattern
