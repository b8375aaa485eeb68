import Analytics.Registry.Basic
import Analytics.Service.Address

/-!
Configuration from environment variables. Names count without regard to case; a variable that is set
to nothing is set.
-/

namespace Analytics

inductive ConfigFault where
  | badVariable
  | badAddress
  | badHostOrPort
  | noDatabase
  deriving DecidableEq, Repr

namespace ConfigFault

def message : ConfigFault → String
  | .badVariable => "failed to parse INSIGHTS_* environment variables"
  | .badAddress => "invalid INSIGHTS_LISTEN_ADDR value"
  | .badHostOrPort => "invalid listen host/port combination"
  | .noDatabase => "INSIGHTS_DATABASE_URL or DATABASE_URL must be set"

end ConfigFault

/-- Files with the keys and certificates of connections. -/
structure TlsFiles where
  root : Option String
  certificate : Option String
  key : Option String
  deriving DecidableEq, Repr

structure Config where
  listen : ListenAddress
  databaseUrl : String
  maxPoolSize : Nat
  tls : TlsFiles
  warehouse : WarehouseSetup
  defaultLimit : Int
  maxLimit : Int
  maxBuckets : Nat
  timeoutSeconds : Nat
  deriving DecidableEq, Repr

namespace Config

def knownNames : List String :=
  ["insights_listen_addr", "insights_listen_host", "insights_listen_port", "insights_database_url",
    "database_url", "insights_max_pool_size", "pgsslrootcert", "pgsslcert", "pgsslkey",
    "insights_warehouse_enabled", "insights_warehouse_url", "insights_warehouse_applications",
    "insights_default_limit", "insights_max_limit", "insights_max_buckets",
    "insights_request_timeout_secs"]

abbrev Environment := List (String × String)

def lowerNames (env : Environment) : Environment := env.map fun (name, value) => (Text.lower name, value)

def isAmbiguous (env : Environment) : Bool :=
  knownNames.any fun name => 1 < (env.filter fun entry => entry.1 = name).length

/-- The value of a variable as read by `parse`, or what stands for it when it is not set. -/
def read {α : Type} (env : Environment) (name : String) (absent : α) (parse : String → Option α) :
    Except ConfigFault α :=
  match env.lookup name with
  | none => .ok absent
  | some written =>
    match parse written with
    | some a => .ok a
    | none => .error .badVariable

def parseBool (s : String) : Option Bool :=
  if s = "true" then some true else if s = "false" then some false else none

def isBlankText (s : String) : Bool := (Text.trim s).isEmpty

def listenAddress (address host : Option String) (port : Option Nat) :
    Except ConfigFault ListenAddress :=
  match address with
  | some address =>
    match ListenAddress.parse? address with
    | some a => .ok a
    | none => .error .badAddress
  | none =>
    let text := host.getD "0.0.0.0" ++ ":" ++ toString (port.getD 8490)
    match ListenAddress.parse? text with
    | some a => .ok a
    | none => .error .badHostOrPort

def ofEnvironment (given : Environment) : Except ConfigFault Config := do
  let env := lowerNames given
  if isAmbiguous env then throw .badVariable
  let port ← read env "insights_listen_port" none fun s => (Digits.toBounded? wordCount16 s).map some
  let maxPoolSize ← read env "insights_max_pool_size" 10 (Digits.toBounded? wordCount32)
  let enabled ← read env "insights_warehouse_enabled" false parseBool
  let defaultLimit ← read env "insights_default_limit" 20 Digits.toWord?
  let maxLimit ← read env "insights_max_limit" 100 Digits.toWord?
  let maxBuckets ← read env "insights_max_buckets" 5000 (Digits.toBounded? wordCount64)
  let timeout ← read env "insights_request_timeout_secs" 30 (Digits.toBounded? wordCount64)
  let listen ←
    listenAddress (env.lookup "insights_listen_addr") (env.lookup "insights_listen_host") port
  let databaseUrl ←
    match (env.lookup "insights_database_url").orElse fun _ => env.lookup "database_url" with
    | some url => pure url
    | none => throw .noDatabase
  let applications := (env.lookup "insights_warehouse_applications").filter (!isBlankText ·)
  pure {
    listen := listen
    databaseUrl := databaseUrl
    maxPoolSize := max maxPoolSize 1
    tls := ⟨env.lookup "pgsslrootcert", env.lookup "pgsslcert", env.lookup "pgsslkey"⟩
    warehouse :=
      ⟨enabled, (env.lookup "insights_warehouse_url").filter (!isBlankText ·),
        applications.getD "[]"⟩
    defaultLimit := max defaultLimit 1
    maxLimit := max maxLimit defaultLimit
    maxBuckets := max maxBuckets 1
    timeoutSeconds := max timeout 1 }

end Config

end Analytics
