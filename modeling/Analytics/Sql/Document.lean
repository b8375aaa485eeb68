import Analytics.Json.Value
import Analytics.Sql.Dialect
import Analytics.Sql.Fragment

/-!
Bound values as JSON documents.
-/

namespace Analytics

namespace Bind

/-- A bound value with the name of its kind. -/
def toJson (b : Bind) : Json :=
  let kind (name : String) (value : Json) : Json := .object [("t", .text name), ("v", value)]
  match b with
  | .text s => kind "text" (.text s)
  | .int i => kind "int" (.int i)
  | .float x => kind "float" (.ofFloat x)
  | .bool b => kind "bool" (.bool b)

end Bind

end Analytics
