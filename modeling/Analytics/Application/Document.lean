import Analytics.Application.Basic
import Analytics.Error
import Analytics.Json.Parser
import Analytics.Json.Record
import Analytics.Zone.Database

/-!
The list of applications as a JSON document. Connection strings are read and never written back.
-/

namespace Analytics

open Json (Read readRecord required withDefault readText readOption readList readNamed readChoice)

namespace Ident

def read : Json → Read Ident := readNamed fun s => (new? s).toOption

def toJson (i : Ident) : Json := .text i.text

end Ident

namespace Zone

def read : Json → Read Zone := readNamed named?

def toJson (z : Zone) : Json := .text z.name

end Zone

/-- Inside an application an empty object is blank too. -/
def isBlankOrEmpty : Json → Bool
  | .null => true
  | .object [] => true
  | _ => false

def readEncoding : Json → Read TimestampEncoding := readChoice isBlankOrEmpty TimestampEncoding.named?

namespace EventTable

def fieldNames : List String :=
  ["name", "idField", "eventNameField", "sessionIdField", "createdAtField", "createdAtFieldType",
    "dateBasedCreatedAtField", "dateBasedCreatedAtTimezone"]

def read : Json → Read EventTable := readRecord fieldNames fun members => do
  let name ← required members "name" Ident.read
  let id ← withDefault members "idField" Ident.rowNumber Ident.read
  let eventName ← required members "eventNameField" Ident.read
  let session ← withDefault members "sessionIdField" none (readOption Ident.read)
  let createdAt ← required members "createdAtField" Ident.read
  let encoding ← withDefault members "createdAtFieldType" .datetime readEncoding
  let date ← withDefault members "dateBasedCreatedAtField" none (readOption Ident.read)
  let dateZone ← withDefault members "dateBasedCreatedAtTimezone" Zone.utc Zone.read
  pure ⟨name, id, eventName, session, createdAt, encoding, date, dateZone⟩

def toJson (t : EventTable) : Json :=
  .object [("createdAtField", t.createdAt.toJson),
    ("createdAtFieldType", .text t.encoding.name),
    ("dateBasedCreatedAtField", .ofOption Ident.toJson t.date),
    ("dateBasedCreatedAtTimezone", t.dateZone.toJson), ("eventNameField", t.eventName.toJson),
    ("idField", t.id.toJson), ("name", t.name.toJson),
    ("sessionIdField", .ofOption Ident.toJson t.session)]

end EventTable

namespace ParameterTable

def fieldNames : List String :=
  ["name", "eventIdField", "paramsNameField", "paramsValueField", "paramsValueNumberField",
    "paramsValueStringField", "paramsValueDateField"]

def read : Json → Read ParameterTable := readRecord fieldNames fun members => do
  let name ← required members "name" Ident.read
  let eventId ←
    withDefault members "eventIdField" ⟨"event_id", rfl⟩ Ident.read
  let parameterName ← required members "paramsNameField" Ident.read
  let generic ← required members "paramsValueField" Ident.read
  let number ← withDefault members "paramsValueNumberField" none (readOption Ident.read)
  let text ← withDefault members "paramsValueStringField" none (readOption Ident.read)
  let date ← withDefault members "paramsValueDateField" none (readOption Ident.read)
  pure ⟨name, eventId, parameterName, generic, number, text, date⟩

def toJson (t : ParameterTable) : Json :=
  .object [("eventIdField", t.eventId.toJson), ("name", t.name.toJson),
    ("paramsNameField", t.parameterName.toJson),
    ("paramsValueDateField", .ofOption Ident.toJson t.date),
    ("paramsValueField", t.value.toJson),
    ("paramsValueNumberField", .ofOption Ident.toJson t.number),
    ("paramsValueStringField", .ofOption Ident.toJson t.text)]

end ParameterTable

namespace LongTable

def fieldNames : List String := ["name", "databaseUrl", "eventTable", "eventParametersTable"]

def read : Json → Read LongTable := readRecord fieldNames fun members => do
  let name ← required members "name" readText
  let databaseUrl ← withDefault members "databaseUrl" none (readOption readText)
  let events ← required members "eventTable" EventTable.read
  let parameters ← required members "eventParametersTable" ParameterTable.read
  pure ⟨name, databaseUrl, events, parameters⟩

def members (t : LongTable) : List (String × Json) :=
  [("eventParametersTable", t.parameters.toJson), ("eventTable", t.events.toJson),
    ("name", .text t.name)]

end LongTable

namespace WideField

def fieldNames : List String := ["name", "type", "encoding"]

def read : Json → Read WideField := readRecord fieldNames fun members => do
  let name ← required members "name" Ident.read
  let type ← required members "type" (readChoice isBlankOrEmpty (some ∘ ValueType.named))
  let encoding ← withDefault members "encoding" none (readOption readEncoding)
  pure ⟨name, type, encoding⟩

/-- A field without encoding does not mention one. -/
def toJson (f : WideField) : Json :=
  let encoding := match f.encoding with
    | some encoding => [("encoding", Json.text encoding.name)]
    | none => []
  .object (encoding ++ [("name", f.name.toJson), ("type", .text f.type.name)])

end WideField

namespace WideTable

def fieldNames : List String :=
  ["name", "databaseUrl", "tableName", "createdAtField", "createdAtFieldType",
    "dateBasedCreatedAtField", "dateBasedCreatedAtTimezone", "distinctField", "eventNameField",
    "fields"]

def read : Json → Read WideTable := readRecord fieldNames fun members => do
  let name ← required members "name" readText
  let databaseUrl ← withDefault members "databaseUrl" none (readOption readText)
  let table ← required members "tableName" Ident.read
  let createdAt ← required members "createdAtField" Ident.read
  let encoding ← withDefault members "createdAtFieldType" .datetime readEncoding
  let date ← withDefault members "dateBasedCreatedAtField" none (readOption Ident.read)
  let dateZone ← withDefault members "dateBasedCreatedAtTimezone" Zone.utc Zone.read
  let distinct ← required members "distinctField" Ident.read
  let eventName ← withDefault members "eventNameField" none (readOption Ident.read)
  let fields ← withDefault members "fields" [] (readList WideField.read)
  pure ⟨name, databaseUrl, table, createdAt, encoding, date, dateZone, distinct, eventName, fields⟩

def members (t : WideTable) : List (String × Json) :=
  [("createdAtField", t.createdAt.toJson), ("createdAtFieldType", .text t.encoding.name),
    ("dateBasedCreatedAtField", .ofOption Ident.toJson t.date),
    ("dateBasedCreatedAtTimezone", t.dateZone.toJson), ("distinctField", t.distinct.toJson),
    ("eventNameField", .ofOption Ident.toJson t.eventName),
    ("fields", .array (t.fields.map WideField.toJson)), ("name", .text t.name),
    ("tableName", t.table.toJson)]

end WideTable

namespace Application

/-- The tag of a value and the value without it: the member `type`, or the first item. -/
def splitTag : Json → Read (String × Json)
  | .object members =>
    match members.filter fun m => m.1 = "type" with
    | [(_, .text tag)] => .ok (tag, .object (members.filter fun m => m.1 ≠ "type"))
    | _ => .error .unfit
  | .array (.text tag :: rest) => .ok (tag, .array rest)
  | _ => .error .unfit

def read (value : Json) : Read Application :=
  match splitTag value with
  | .error fault => .error fault
  | .ok (tag, body) =>
    if tag = "longTable" then (LongTable.read body).map .long
    else if tag = "wideTable" then (WideTable.read body).map .wide
    else .error .unfit

def toJson : Application → Json
  | .long table => .object (("type", .text "longTable") :: table.members)
  | .wide table => .object (("type", .text "wideTable") :: table.members)

/-- Refuses blank names, and two applications of one type with the same name. -/
def checkNames (seen : List (String × InsightType)) : List Application → Except ApplicationsFault Unit
  | [] => .ok ()
  | app :: rest =>
    if (Text.trim app.name).isEmpty then .error .emptyName
    else if seen.contains (app.name, app.insightType) then
      .error (.duplicate app.insightType app.name)
    else checkNames ((app.name, app.insightType) :: seen) rest

/-- The applications that a document lists. -/
def parseList (raw : String) : Except ApplicationsFault (List Application) :=
  match Json.parse? raw with
  | none => .error .malformed
  | some value =>
    match readList read value with
    | .error _ => .error .malformed
    | .ok applications =>
      match checkNames [] applications with
      | .error fault => .error fault
      | .ok () => .ok applications

end Application

end Analytics
