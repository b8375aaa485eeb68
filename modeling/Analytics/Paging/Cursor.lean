import Analytics.Error
import Analytics.Json.Parser
import Analytics.Json.Printer
import Analytics.Json.Record
import Analytics.Text.Base64
import Analytics.Text.Blank

/-!
Cursors: the number of the last row of a page, as a text that a client hands back. The text holds a
small document, so that it can grow fields that older readers pass over.
-/

namespace Analytics.Cursor

open Json (Read readRecord required readWord)

def document (after : Int) : Json := .object [("after", .int after)]

def readDocument : Json → Read Int := readRecord ["after"] fun members => do
  required members "after" readWord

def encode (after : Int) : String :=
  String.ofList (Base64.urlSafe.encode (document after).render.toUTF8.toList)

def textOf? (bytes : List UInt8) : Option String := String.fromUTF8? (ByteArray.mk bytes.toArray)

/-- The number in a cursor; blanks around the cursor do not count. -/
def decode (cursor : String) : Checked Int :=
  match Base64.urlSafe.decode? (Text.trimChars cursor.toList) with
  | none => .error (.request .cursor)
  | some bytes =>
    match (textOf? bytes).bind Json.parse? with
    | none => .error (.request .cursorPayload)
    | some value =>
      match readDocument value with
      | .ok after => .ok after
      | .error _ => .error (.request .cursorPayload)

end Analytics.Cursor
