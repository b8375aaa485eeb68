import Analytics.Application.Basic
import Analytics.Source.Basic

/-!
Events in a wide table: a row per event and a column per field.
-/

namespace Analytics.WideTable

def relation (t : WideTable) : Relation := ⟨t.table, ⟨"t", rfl⟩⟩

def column (t : WideTable) (name : Ident) : Column := t.relation.column name

/-- A field that the application declares. Times are stored in the field's own encoding. -/
def stored (t : WideTable) (field : WideField) : StoredColumn Column :=
  match field.type with
  | .date => ⟨t.column field.name, .temporal (field.encoding.getD .datetime)⟩
  | _ => ⟨t.column field.name, .native⟩

def fieldColumn (t : WideTable) (name : String) : Checked (StoredColumn Column) :=
  match t.field? name with
  | some field => .ok (t.stored field)
  | none => .error (.request (.unknownWideField name t.name))

def filter (t : WideTable) (f : PlannedFilter) : Checked Condition :=
  match t.fieldColumn f.field with
  | .error e => .error e
  | .ok column => (Filter.compile f.type f.operator f.value column).map .plain

def source (t : WideTable) : Source where
  relation := t.relation
  dates := ⟨t.column t.createdAt, t.encoding, t.date.map t.column, t.dateZone⟩
  eventName := t.eventName.map t.column
  session := some (t.column t.distinct)
  eventId := none
  joins := []
  scope := []
  groupColumn := fun _ g => t.fieldColumn g.field
  filter := t.filter

end Analytics.WideTable
