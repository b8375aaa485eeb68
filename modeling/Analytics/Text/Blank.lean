/-!
Blank characters (the property White_Space), and trimming them off both ends of a text.
-/

namespace Analytics.Text

def isBlank (c : Char) : Bool :=
  let n := c.toNat
  (9 ≤ n && n ≤ 13) || n = 0x20 || n = 0x85 || n = 0xA0 || n = 0x1680 ||
    (0x2000 ≤ n && n ≤ 0x200A) || n = 0x2028 || n = 0x2029 || n = 0x202F || n = 0x205F || n = 0x3000

def trimLeft (cs : List Char) : List Char := cs.dropWhile isBlank

def trimRight (cs : List Char) : List Char := (cs.reverse.dropWhile isBlank).reverse

def trimChars (cs : List Char) : List Char := trimRight (trimLeft cs)

def trim (s : String) : String := String.ofList (trimChars s.toList)

/-- ASCII capitals in lower case. -/
def lowerChar (c : Char) : Char :=
  if 'A' ≤ c && c ≤ 'Z' then Char.ofNat (c.toNat + 32) else c

/-- Lower case for comparison with plain ASCII words that hold no `k`: the only other characters
whose lower case is an ASCII letter are capitals already mapped here and the Kelvin sign. -/
def lower (s : String) : String := String.ofList (s.toList.map lowerChar)

def sameIgnoringCase (s t : String) : Bool := lower s = lower t

end Analytics.Text
