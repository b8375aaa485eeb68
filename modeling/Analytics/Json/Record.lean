import Analytics.Json.Value

/-!
Reading typed data from JSON values. A record is an object whose members are found by name, whatever
other members it has, or an array of the fields in order.
-/

namespace Analytics.Json

inductive ReadFault where
  /-- The text is not laid out as one value of the wanted kind. -/
  | malformed
  /-- The value is one of another kind, or lacks something. -/
  | unfit
  deriving DecidableEq, Repr

abbrev Read (α : Type) := Except ReadFault α

def repeats (names : List String) (members : List (String × Json)) : Bool :=
  names.any fun name => 1 < (members.filter fun m => m.1 = name).length

/-- Reads a record from its members. Items behind the last field are found once the fields are
read. -/
def readRecord {α : Type} (names : List String) (build : List (String × Json) → Read α) :
    Json → Read α
  | .object members => if repeats names members then .error .unfit else build members
  | .array items =>
    match build (names.zip items) with
    | .error fault => .error fault
    | .ok a => if names.length < items.length then .error .malformed else .ok a
  | _ => .error .unfit

def required {α : Type} (members : List (String × Json)) (name : String) (read : Json → Read α) :
    Read α :=
  match members.lookup name with
  | some value => read value
  | none => .error .unfit

/-- A field that stands for something when it is left out. -/
def withDefault {α : Type} (members : List (String × Json)) (name : String) (absent : α)
    (read : Json → Read α) : Read α :=
  match members.lookup name with
  | some value => read value
  | none => .ok absent

def readText : Json → Read String
  | .text s => .ok s
  | _ => .error .unfit

def readWord (value : Json) : Read Int :=
  match value.toWord? with
  | some i => .ok i
  | none => .error .unfit

def readFloat (value : Json) : Read Binary64 :=
  match value.toFloat? with
  | some x => .ok x
  | none => .error .unfit

def readAny (value : Json) : Read Json := .ok value.canonical

def readOption {α : Type} (read : Json → Read α) : Json → Read (Option α)
  | .null => .ok none
  | value => (read value).map some

def readEach {α : Type} (read : Json → Read α) : List Json → Read (List α)
  | [] => .ok []
  | item :: rest =>
    match read item with
    | .error fault => .error fault
    | .ok a => (readEach read rest).map (a :: ·)

def readList {α : Type} (read : Json → Read α) : Json → Read (List α)
  | .array items => readEach read items
  | _ => .error .unfit

def readNamed {α : Type} (named? : String → Option α) (value : Json) : Read α :=
  match value with
  | .text s =>
    match named? s with
    | some a => .ok a
    | none => .error .unfit
  | _ => .error .unfit

/-- A word of a closed choice, alone or as the only key of an object with a blank value. -/
def readChoice {α : Type} (isBlank : Json → Bool) (named? : String → Option α) : Json → Read α
  | .text s => readNamed named? (.text s)
  | .object [(key, value)] =>
    match readNamed named? (.text key) with
    | .error fault => .error fault
    | .ok a => if isBlank value then .ok a else .error .unfit
  | _ => .error .malformed

end Analytics.Json
