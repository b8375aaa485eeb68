import Analytics.Number.Binary64

/-!
Pieces of statements with positional parameters. A piece is text and the values of its placeholders
in the order the placeholders stand.
-/

namespace Analytics

/-- A value bound to a placeholder. -/
inductive Bind where
  | text (s : String)
  | int (i : Int)
  | float (x : Binary64)
  | bool (b : Bool)
  deriving DecidableEq, Repr

structure Fragment where
  sql : String
  binds : List Bind
  deriving DecidableEq, Repr

namespace Fragment

def raw (sql : String) : Fragment := ⟨sql, []⟩

/-- Text that holds one placeholder for each of the values. -/
def bound (sql : String) (binds : List Bind) : Fragment := ⟨sql, binds⟩

def empty : Fragment := raw ""

def placeholder (value : Bind) : Fragment := ⟨"?", [value]⟩

def always : Fragment := raw "1=1"

def never : Fragment := raw "1=0"

def append (a b : Fragment) : Fragment := ⟨a.sql ++ b.sql, a.binds ++ b.binds⟩

instance : Append Fragment := ⟨append⟩

def andThen (f : Fragment) (sql : String) : Fragment := { f with sql := f.sql ++ sql }

def enclose (before after : String) (f : Fragment) : Fragment := (raw before ++ f).andThen after

def join (separator : String) : List Fragment → Fragment
  | [] => empty
  | [f] => f
  | f :: rest => f.andThen separator ++ join separator rest

/-- The conjunction of predicates, each in parentheses; true when there is none. -/
def conjunction : List Fragment → Fragment
  | [] => always
  | parts => join " AND " (parts.map (enclose "(" ")"))

def isEmpty (f : Fragment) : Bool := f.sql.isEmpty

end Fragment

structure Statement where
  sql : String
  params : List Bind
  deriving DecidableEq, Repr

def Fragment.toStatement (f : Fragment) : Statement := ⟨f.sql, f.binds⟩

end Analytics
