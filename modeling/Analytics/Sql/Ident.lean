import Analytics.Error
import Analytics.Text.Blank

/-!
Names in statements. A name cannot be bound as a parameter, so each one carries the proof that no
character of it can end the quotes it stands in, mark a placeholder or hide in a control.
-/

namespace Analytics

namespace IdentChar

def isControl (c : Char) : Bool := c.toNat < 0x20 || (0x7F ≤ c.toNat && c.toNat ≤ 0x9F)

def quoting : List Char := ['"', '\x27', '\x60', '\\', ';', '?']

def reserved : List Char := ['%', '|']

def isSafe (c : Char) : Bool := !isControl c && !quoting.contains c

/-- Whether a character may stand in a name that a request or an application gives. -/
def isPlain (c : Char) : Bool := isSafe c && !reserved.contains c

end IdentChar

structure Ident where
  text : String
  safe : text.toList.all IdentChar.isSafe = true
  deriving DecidableEq

namespace Ident

instance : Repr Ident := ⟨fun i n => reprPrec i.text n⟩

def checkComponent (raw : String) : Except IdentFault Unit :=
  if (Text.trimChars raw.toList).isEmpty then .error .empty
  else match raw.toList.find? fun c => !IdentChar.isPlain c with
    | some c => .error (.forbidden raw c)
    | none => .ok ()

def checkLength (raw : String) : Except IdentFault Unit :=
  if maxIdentBytes < raw.utf8ByteSize then .error (.tooLong raw) else .ok ()

theorem plain_of_checkComponent {raw : String} (h : checkComponent raw = .ok ()) :
    raw.toList.all IdentChar.isPlain = true := by
  unfold checkComponent at h
  split at h
  · simp at h
  · split at h
    · simp at h
    · rename_i found
      apply List.all_eq_true.mpr
      intro c member
      simpa using List.find?_eq_none.mp found c member

theorem safe_of_plain {cs : List Char} (h : cs.all IdentChar.isPlain = true) :
    cs.all IdentChar.isSafe = true := by
  apply List.all_eq_true.mpr
  intro c member
  have plain := List.all_eq_true.mp h c member
  simp only [IdentChar.isPlain, Bool.and_eq_true] at plain
  exact plain.1

/-- A name from outside: a plain component of at most 63 bytes. -/
def new? (raw : String) : Except IdentFault Ident :=
  match h : checkComponent raw with
  | .error fault => .error fault
  | .ok () =>
    match checkLength raw with
    | .error fault => .error fault
    | .ok () => .ok ⟨raw, safe_of_plain (plain_of_checkComponent h)⟩

def rowNumber : Ident := ⟨"id", rfl⟩

def quoted (i : Ident) : String := "\"" ++ i.text ++ "\""

end Ident

/-- A column of a relation. -/
structure Column where
  relation : Ident
  name : Ident
  deriving DecidableEq, Repr

namespace Column

def render (c : Column) : String := c.relation.quoted ++ "." ++ c.name.quoted

end Column

end Analytics
