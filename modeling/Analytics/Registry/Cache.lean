import Analytics.Application.Document

/-!
The list of applications, kept as the text it was given as and, once it has been asked for, as what
the text lists. Each operation here happens at once; callers that run side by side meet only between
operations.
-/

namespace Analytics

structure ApplicationCache where
  raw : String
  parsed : Option (List Application)
  deriving Repr

namespace ApplicationCache

def ofText (raw : String) : ApplicationCache := ⟨raw, none⟩

def peek (c : ApplicationCache) : Option (List Application) := c.parsed

/-- Reads the list unless that has been done. A text that is no list is not remembered as one. -/
def fill (c : ApplicationCache) :
    Except ApplicationsFault (List Application) × ApplicationCache :=
  match c.parsed with
  | some applications => (.ok applications, c)
  | none =>
    match Application.parseList c.raw with
    | .ok applications => (.ok applications, { c with parsed := some applications })
    | .error fault => (.error fault, c)

def install (c : ApplicationCache) (raw : String) (applications : List Application) :
    ApplicationCache :=
  { c with raw := raw, parsed := some applications }

def applications (c : ApplicationCache) :
    Except ApplicationsFault (List Application) × ApplicationCache :=
  match c.peek with
  | some applications => (.ok applications, c)
  | none => c.fill

def reload (c : ApplicationCache) (raw : String) :
    Except ApplicationsFault Nat × ApplicationCache :=
  match Application.parseList raw with
  | .ok applications => (.ok applications.length, c.install raw applications)
  | .error fault => (.error fault, c)

end ApplicationCache

end Analytics
