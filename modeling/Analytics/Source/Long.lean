import Analytics.Application.Basic
import Analytics.Source.Basic

/-!
Events in a long table: a row per event, and a second table of named parameters. The event name is
read from the event; every other field is a parameter. A filter on a parameter asks whether the event
has a matching one, so that it never multiplies rows; a group on a parameter joins its rows.
-/

namespace Analytics.LongTable

def relation (t : LongTable) : Relation := ⟨t.events.name, Source.eventRows⟩

def ofEvent (t : LongTable) (name : Ident) : Column := t.relation.column name

def eventName (t : LongTable) : Column := t.ofEvent t.events.eventName

def namesEvents (t : LongTable) (field : String) : Bool := t.events.eventName.text = field

def filterRelation (t : LongTable) : Relation := ⟨t.parameters.name, ⟨"p", rfl⟩⟩

theorem digit_safe {c : Char} (h : c.isDigit = true) : IdentChar.isSafe c = true := by
  have bounds : 48 ≤ c.toNat ∧ c.toNat ≤ 57 := Char.isDigit_iff_toNat.mp h
  have ne (d : Char) (outside : d.toNat < 48 ∨ 57 < d.toNat) : c ≠ d := by
    rintro rfl
    omega
  simp only [IdentChar.isSafe, IdentChar.isControl, IdentChar.quoting, Bool.and_eq_true,
    Bool.not_eq_true', Bool.or_eq_false_iff, Bool.and_eq_false_iff, decide_eq_false_iff_not,
    List.contains_eq_mem, List.mem_cons, List.not_mem_nil, or_false, not_or]
  refine ⟨⟨by omega, by omega⟩, ?_⟩
  exact ⟨ne _ (by decide), ne _ (by decide), ne _ (by decide), ne _ (by decide), ne _ (by decide),
    ne _ (by decide)⟩

theorem groupName_safe (index : Nat) :
    ("g" ++ toString index).toList.all IdentChar.isSafe = true := by
  have letter : "g".toList.all IdentChar.isSafe = true := rfl
  have digits : (toString index).toList.all IdentChar.isSafe = true := by
    apply List.all_eq_true.mpr
    intro c member
    have written : toString index = String.ofList (Nat.toDigits 10 index) := rfl
    rw [written, String.toList_ofList] at member
    exact digit_safe (Nat.isDigit_of_mem_toDigits (by omega) (Nat.le_refl 10) member)
  rw [String.toList_append, List.all_append, letter, digits, Bool.and_self]

def groupRelation (t : LongTable) (index : Nat) : Relation :=
  ⟨t.parameters.name, ⟨"g" ++ toString index, groupName_safe index⟩⟩

/-- The column of parameter values of a type: one for the type where there is one, else the text of
all of them. -/
def storedValue (t : LongTable) (r : Relation) (type : ValueType) : StoredColumn Column :=
  let generic : StoredColumn Column := ⟨r.column t.parameters.value, .text⟩
  match type with
  | .number =>
    match t.parameters.number with
    | some name => ⟨r.column name, .native⟩
    | none => generic
  | .date =>
    match t.parameters.date with
    | some name => ⟨r.column name, .temporal .datetime⟩
    | none => generic
  | .string | .other =>
    match t.parameters.text with
    | some name => ⟨r.column name, .native⟩
    | none => generic

/-- That a parameter belongs to the event and has a name. -/
def link (t : LongTable) (r : Relation) (name : String) : Predicate Column :=
  .both
    (.compare .equal (.column (r.column t.parameters.eventId)) (.column (t.ofEvent t.events.id)))
    (.compare .equal (.column (r.column t.parameters.parameterName)) (.bound (.text name)))

def groupColumn (t : LongTable) (index : Nat) (g : GroupPlan) : StoredColumn Column :=
  if t.namesEvents g.field then ⟨t.eventName, .native⟩
  else t.storedValue (t.groupRelation index) g.type

def joinsFrom (t : LongTable) (index : Nat) : List GroupPlan → List Join
  | [] => []
  | g :: rest =>
    if t.namesEvents g.field then t.joinsFrom (index + 1) rest
    else ⟨t.groupRelation index, t.link (t.groupRelation index) g.field⟩
      :: t.joinsFrom (index + 1) rest

def filter (t : LongTable) (f : PlannedFilter) : Checked Condition :=
  if t.namesEvents f.field then
    (Filter.compile f.type f.operator f.value ⟨t.eventName, .native⟩).map .plain
  else
    (Filter.compile f.type f.operator f.value (t.storedValue t.filterRelation f.type)).map fun p =>
      .linked t.filterRelation (t.link t.filterRelation f.field) p

/-- The table as the source of a request with these groups. -/
def source (t : LongTable) (groups : List GroupPlan) : Source where
  relation := t.relation
  dates :=
    ⟨t.ofEvent t.events.createdAt, t.events.encoding, t.events.date.map t.ofEvent,
      t.events.dateZone⟩
  eventName := some t.eventName
  session := t.events.session.map t.ofEvent
  eventId :=
    if groups.any fun g => !t.namesEvents g.field then some (t.ofEvent t.events.id) else none
  joins := t.joinsFrom 0 groups
  scope := []
  groupColumn := fun index g => .ok (t.groupColumn index g)
  filter := t.filter

end Analytics.LongTable
