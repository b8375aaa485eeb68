import Analytics.Json.Parser
import Analytics.Request.Document
import Analytics.Service.Engine
import Analytics.Service.MediaType

/-!
The service's answers to HTTP requests. Each path has one method and one kind of document; what a
document lacks is told by the status alone.
-/

namespace Analytics.Http

structure Call where
  method : String
  path : String
  contentType : Option String
  body : String
  deriving DecidableEq, Repr

structure Answer where
  status : Nat
  /-- The document of the answer, where there is one. -/
  body : Option Json
  deriving Repr

def plain (status : Nat) : Answer := ⟨status, none⟩

def document (body : Json) : Answer := ⟨200, some body⟩

/-- The answer that tells a fault. A program that stops sends nothing. -/
def fault : Error → Answer
  | .stopped => plain 0
  | e => ⟨e.status, some (.object [("error", .text e.message)])⟩

def ofChecked {α : Type} (encode : α → Json) : Checked α → Answer
  | .ok a => document (encode a)
  | .error e => fault e

def readBody {α : Type} (read : Json → Json.Read α) (c : Call) : Except Nat α :=
  if !(c.contentType.map MediaType.isJson).getD false then .error 415
  else match Json.readFirst c.body.toList with
    | none => .error 400
    | some (value, _) =>
      match read value with
      | .ok a => .ok a
      | .error .malformed => .error 400
      | .error .unfit => .error 422

def query (w : World) (e : Engine) (c : Call) : Answer × Engine :=
  match readBody InsightQuery.read c with
  | .error status => (plain status, e)
  | .ok request =>
    let (answer, e) := e.query w request
    (ofChecked (fun series => .array (series.map Series.toJson)) answer, e)

def translate (w : World) (e : Engine) (c : Call) : Answer × Engine :=
  match readBody InsightQuery.read c with
  | .error status => (plain status, e)
  | .ok request =>
    let (answer, e) := e.translate w request
    (ofChecked WrittenStatement.toJson answer, e)

def events (w : World) (e : Engine) (c : Call) : Answer :=
  match readBody EventListRequest.read c with
  | .error status => plain status
  | .ok request => ofChecked Page.toJson (e.listEvents w request)

def health (c : Call) : Answer :=
  if c.method = "GET" then document (.object [("status", .text "ok")])
  else if c.method = "HEAD" then plain 200
  else plain 405

/-- The path of a call without the parameters behind it. -/
def route (c : Call) : String := String.ofList (c.path.toList.takeWhile (· ≠ '?'))

def handle (w : World) (e : Engine) (c : Call) : Answer × Engine :=
  let posted (answer : Answer × Engine) : Answer × Engine :=
    if c.method = "POST" then answer else (plain 405, e)
  if route c = "/healthz" then (health c, e)
  else if route c = "/api/insights/query" then posted (query w e c)
  else if route c = "/api/insights/translate" then posted (translate w e c)
  else if route c = "/api/insights/events" then posted (events w e c, e)
  else (plain 404, e)

end Analytics.Http
