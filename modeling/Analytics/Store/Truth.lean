/-!
Truth of predicates over values that may be unknown.
-/

namespace Analytics

inductive Truth where
  | no
  | unknown
  | yes
  deriving DecidableEq, Repr

namespace Truth

def ofBool (b : Bool) : Truth := if b then yes else no

def not : Truth → Truth
  | no => yes
  | unknown => unknown
  | yes => no

def and : Truth → Truth → Truth
  | no, _ => no
  | _, no => no
  | yes, yes => yes
  | _, _ => unknown

def or : Truth → Truth → Truth
  | yes, _ => yes
  | _, yes => yes
  | no, no => no
  | _, _ => unknown

def any (ts : List Truth) : Truth := ts.foldr or no

/-- Whether it is certain. -/
def holds (t : Truth) : Bool := t = yes

end Truth

end Analytics
