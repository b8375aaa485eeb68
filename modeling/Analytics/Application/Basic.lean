import Analytics.Request.Kind
import Analytics.Sql.Ident
import Analytics.Zone.Basic

/-!
Applications: how the tables of a warehouse hold the events of an insight. A long table has a row
per event and a second table with a row per parameter of an event; a wide table has a column per
field.
-/

namespace Analytics

structure EventTable where
  name : Ident
  id : Ident
  eventName : Ident
  session : Option Ident
  createdAt : Ident
  encoding : TimestampEncoding
  /-- A column of local dates. -/
  date : Option Ident
  /-- The zone whose calendar the dates are in. -/
  dateZone : Zone
  deriving DecidableEq, Repr

/-- The table of event parameters of a long application. -/
structure ParameterTable where
  name : Ident
  eventId : Ident
  parameterName : Ident
  /-- The value as text, whatever it is. -/
  value : Ident
  number : Option Ident
  text : Option Ident
  date : Option Ident
  deriving DecidableEq, Repr

structure LongTable where
  name : String
  databaseUrl : Option String
  events : EventTable
  parameters : ParameterTable
  deriving DecidableEq, Repr

/-- A field of a wide table that requests may use. -/
structure WideField where
  name : Ident
  type : ValueType
  encoding : Option TimestampEncoding
  deriving DecidableEq, Repr

structure WideTable where
  name : String
  databaseUrl : Option String
  table : Ident
  createdAt : Ident
  encoding : TimestampEncoding
  date : Option Ident
  dateZone : Zone
  /-- The column whose values tell sessions apart. -/
  distinct : Ident
  eventName : Option Ident
  fields : List WideField
  deriving DecidableEq, Repr

namespace WideTable

def field? (t : WideTable) (name : String) : Option WideField :=
  t.fields.find? fun field => field.name.text = name

end WideTable

inductive Application where
  | long (table : LongTable)
  | wide (table : WideTable)
  deriving DecidableEq, Repr

namespace Application

def name : Application → String
  | .long table => table.name
  | .wide table => table.name

def insightType : Application → InsightType
  | .long _ => .longTable
  | .wide _ => .wideTable

def databaseUrl : Application → Option String
  | .long table => table.databaseUrl
  | .wide table => table.databaseUrl

end Application

end Analytics
