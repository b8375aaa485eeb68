/-!
Powers of two and ten, and the bounds of machine words.
-/

namespace Analytics

def twoPow (k : Nat) : Nat := Nat.pow 2 k

def tenPow (k : Nat) : Nat := Nat.pow 10 k

/-- How many values a word of 16 bits has. -/
def wordCount16 : Nat := 65536

def wordCount32 : Nat := 4294967296

def wordCount64 : Nat := 18446744073709551616

def leastWord : Int := -9223372036854775808

def greatestWord : Int := 9223372036854775807

/-- Whether a whole number fits a signed word of 64 bits. -/
def fitsWord (i : Int) : Bool := leastWord ≤ i && i ≤ greatestWord

end Analytics
