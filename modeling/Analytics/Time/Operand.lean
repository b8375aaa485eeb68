import Analytics.Error
import Analytics.Json.Printer
import Analytics.Time.Reading

/-!
Instants as operands: text in one of the accepted forms, or epoch milliseconds as a whole number.
-/

namespace Analytics

namespace Instant

def ofText (raw : String) : Checked Instant :=
  let chars := Text.trimChars raw.toList
  match TimeReading.instantText? chars with
  | some t => .ok t
  | none => .error (.request (.dateLiteral (String.ofList chars)))

def ofJson (value : Json) : Checked Instant :=
  match value with
  | .int i =>
    match value.toWord?.bind Instant.ofMillis? with
    | some t => .ok t
    | none => .error (.request (.epochMillis (toString i)))
  | .float x => .error (.request (.epochMillis (Json.floatText x)))
  | .text s => ofText s
  | other => .error (.request (.notADate other.render))

end Instant

end Analytics
