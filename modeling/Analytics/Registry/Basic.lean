import Analytics.Registry.Cache
import Analytics.Store.Location

/-!
The registry: which application an insight is of, and the store that serves it. Stores are opened
once for each connection string and kept.
-/

namespace Analytics

/-- How warehouses are set up. -/
structure WarehouseSetup where
  enabled : Bool
  defaultUrl : Option String
  /-- The list of applications as a document. -/
  applications : String
  deriving DecidableEq, Repr

structure Registry where
  enabled : Bool
  defaultUrl : Option String
  cache : ApplicationCache
  /-- Open stores by connection string. -/
  pools : List (String × StoreLocation)
  deriving Repr

inductive Resolved where
  | internal
  | long (table : LongTable) (store : StoreLocation)
  | wide (table : WideTable) (store : StoreLocation)
  deriving Repr

namespace Resolved

def ofApplication (store : StoreLocation) : Application → Resolved
  | .long table => .long table store
  | .wide table => .wide table store

end Resolved

namespace Registry

def ofSetup (s : WarehouseSetup) : Registry :=
  ⟨s.enabled, s.defaultUrl, .ofText s.applications, []⟩

def storeCount (r : Registry) : Nat := r.pools.length

def applications (r : Registry) : Checked (List Application) × Registry :=
  let (answer, cache) := r.cache.applications
  (answer.mapError .applications, { r with cache := cache })

def reload (r : Registry) (raw : String) : Checked Nat × Registry :=
  let (answer, cache) := r.cache.reload raw
  (answer.mapError .applications, { r with cache := cache })

def openStore (canOpen : String → Bool) (r : Registry) (url : String) (type : InsightType) :
    Checked StoreLocation × Registry :=
  match r.pools.lookup url with
  | some store => (.ok store, r)
  | none =>
    match StoreLocation.open? canOpen url with
    | .ok store => (.ok store, { r with pools := r.pools ++ [(url, store)] })
    | .error fault => (.error (.unavailable type (.pool fault)), r)

def find? (applications : List Application) (insightId : String) (type : InsightType) :
    Option Application :=
  applications.find? fun app => app.name = insightId && app.insightType = type

/-- Finds the application of an insight and opens its store. -/
def resolve (canOpen : String → Bool) (r : Registry) (insightId : String) (type : InsightType) :
    Checked Resolved × Registry :=
  if type = .internal then (.ok .internal, r)
  else if !r.enabled then (.error (.unavailable type .disabled), r)
  else
    match r.applications with
    | (.error e, r) => (.error e, r)
    | (.ok applications, r) =>
      match find? applications insightId type with
      | none => (.error (.applicationNotFound insightId type), r)
      | some app =>
        match app.databaseUrl.orElse fun _ => r.defaultUrl with
        | none => (.error (.unavailable type .noConnection), r)
        | some url =>
          match r.openStore canOpen url type with
          | (.error e, r) => (.error e, r)
          | (.ok store, r) => (.ok (.ofApplication store app), r)

end Registry

end Analytics
