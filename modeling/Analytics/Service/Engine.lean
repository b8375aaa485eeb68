import Analytics.Registry.Basic
import Analytics.Series.Dense
import Analytics.Service.Config
import Analytics.Source.Internal
import Analytics.Source.Listing
import Analytics.Source.Long
import Analytics.Source.Wide
import Analytics.Sql.Document
import Analytics.Store.Answer

/-!
The engine: from a request to its answer. A request is checked, its source is found, its statement is
built, run, and the rows are shaped into series. What stores hold is given from outside.
-/

namespace Analytics

/-- What lies outside the engine. -/
structure World where
  /-- Whether a path can be opened as a store. -/
  canOpen : String → Bool
  /-- What the engine's own store holds. -/
  internal : Database
  /-- What the store of a warehouse holds. -/
  warehouse : StoreLocation → Database

structure Engine where
  /-- The dialect of the engine's own store. -/
  dialect : Dialect
  registry : Registry
  maxBuckets : Nat
  defaultLimit : Int
  maxLimit : Int

structure WrittenStatement where
  statement : Statement
  insightType : InsightType
  dialect : Dialect
  deriving Repr

namespace WrittenStatement

def toJson (t : WrittenStatement) : Json :=
  .object [("backend", .text t.insightType.name), ("dialect", .text t.dialect.name),
    ("params", .array (t.statement.params.map Bind.toJson)), ("sql", .text t.statement.sql)]

end WrittenStatement

namespace Resolved

def source (r : Resolved) (p : QueryPlan) : Source :=
  match r with
  | .internal => Internal.source p.insightId
  | .long table _ => table.source p.groups
  | .wide table _ => table.source

def dialect (r : Resolved) (own : Dialect) : Dialect :=
  match r with
  | .internal => own
  | .long _ store => store.dialect
  | .wide _ store => store.dialect

def database (r : Resolved) (w : World) : Database :=
  match r with
  | .internal => w.internal
  | .long _ store => w.warehouse store
  | .wide _ store => w.warehouse store

end Resolved

/-- A request with its source and its statement. -/
structure Prepared where
  plan : QueryPlan
  resolved : Resolved
  statement : SeriesStatement

namespace Engine

def ofConfig (canOpen : String → Bool) (c : Config) : Except StoreFault Engine :=
  (StoreLocation.open? canOpen c.databaseUrl).map fun store =>
    ⟨store.dialect, .ofSetup c.warehouse, c.maxBuckets, c.defaultLimit, c.maxLimit⟩

def locate (w : World) (e : Engine) (q : InsightQuery) :
    Checked (QueryPlan × Resolved) × Engine :=
  match q.plan e.maxBuckets with
  | .error fault => (.error fault, e)
  | .ok plan =>
    match e.registry.resolve w.canOpen plan.insightId plan.insightType with
    | (answer, registry) =>
      (answer.map fun resolved => (plan, resolved), { e with registry := registry })

def prepare (w : World) (e : Engine) (q : InsightQuery) : Checked Prepared × Engine :=
  match e.locate w q with
  | (.error fault, e) => (.error fault, e)
  | (.ok (plan, resolved), e) =>
    (if (resolved.source plan).stops plan then .error .stopped
      else ((resolved.source plan).build plan).map fun statement => ⟨plan, resolved, statement⟩, e)

def run (w : World) (p : Prepared) : Checked (List Series) :=
  match (p.resolved.database w).series? p.statement with
  | some rows => p.plan.seriesOfRows rows
  | none => .error (.statementFailed p.plan.insightId p.plan.insightType)

def query (w : World) (e : Engine) (q : InsightQuery) : Checked (List Series) × Engine :=
  match e.prepare w q with
  | (.error fault, e) => (.error fault, e)
  | (.ok prepared, e) => (run w prepared, e)

def translate (w : World) (e : Engine) (q : InsightQuery) : Checked WrittenStatement × Engine :=
  match e.prepare w q with
  | (.error fault, e) => (.error fault, e)
  | (.ok prepared, e) =>
    let dialect := prepared.resolved.dialect e.dialect
    let statement := prepared.statement.render dialect
    (.ok ⟨{ statement with sql := dialect.numberPlaceholders statement.sql },
      prepared.plan.insightType, dialect⟩, e)

/-- The number of rows of a page: the number asked for, or else the default, between one and the
most; none if the most is below one. -/
def pageLimit? (e : Engine) (asked : Option Int) : Option Int :=
  if 1 ≤ e.maxLimit then some (min (max (asked.getD e.defaultLimit) 1) e.maxLimit) else none

def page (db : Database) (l : Listing) (cursor : Option String) : Checked Page :=
  l.page (fun after => match db.listing? l after with
    | some rows => .ok rows
    | none => .error (.statementFailed l.insightId l.insightType)) cursor

def listEvents (w : World) (e : Engine) (r : EventListRequest) : Checked Page :=
  match e.pageLimit? r.limit with
  | none => .error .stopped
  | some limit =>
    match r.listing limit with
    | .error fault => .error fault
    | .ok listing => page w.internal listing r.cursor

end Engine

end Analytics
