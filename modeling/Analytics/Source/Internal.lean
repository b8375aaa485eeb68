import Analytics.Source.Basic

/-!
The service's own events: one table of all websites, each request confined to the rows of one.
-/

namespace Analytics.Internal

def event : Relation :=
  ⟨⟨"website_event", rfl⟩, Source.eventRows⟩

def websiteId : Column := event.column ⟨"website_id", rfl⟩
def sessionId : Column := event.column ⟨"session_id", rfl⟩
def eventName : Column := event.column ⟨"event_name", rfl⟩
def createdAt : Column := event.column ⟨"created_at", rfl⟩
def createdDate : Column := event.column ⟨"created_date", rfl⟩

/-- The column that numbers the events. -/
def id : Column := event.column Ident.rowNumber

def dimensions : List Ident :=
  [⟨"url_path", rfl⟩, ⟨"url_query", rfl⟩, ⟨"referrer_domain", rfl⟩,
    ⟨"page_title", rfl⟩, ⟨"hostname", rfl⟩, ⟨"browser", rfl⟩, ⟨"os", rfl⟩,
    ⟨"device", rfl⟩, ⟨"screen", rfl⟩, ⟨"language", rfl⟩, ⟨"country", rfl⟩,
    ⟨"subdivision1", rfl⟩, ⟨"city", rfl⟩]

def dimension (field : String) : Checked (StoredColumn Column) :=
  match dimensions.find? fun name => name.text = field with
  | some name => .ok ⟨event.column name, .native⟩
  | none => .error (.request (.unknownInternalField field))

def scope (website : String) : Predicate Column :=
  .compare .equal (.column websiteId) (.bound (.text website))

def filter (f : PlannedFilter) : Checked Condition :=
  match dimension f.field with
  | .error e => .error e
  | .ok column => (Filter.compile f.type f.operator f.value column).map .plain

/-- The events of a website as a source. -/
def source (website : String) : Source where
  relation := event
  dates := ⟨createdAt, .datetime, some createdDate, Zone.utc⟩
  eventName := some eventName
  session := some sessionId
  eventId := none
  joins := []
  scope := [.plain (scope website)]
  groupColumn := fun _ g => dimension g.field
  filter := filter

end Analytics.Internal
