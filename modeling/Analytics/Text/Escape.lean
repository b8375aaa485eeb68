import Analytics.Text.Extending
import Analytics.Text.Unprintable

/-!
Escaped spelling of a text inside a message, so that a reader sees every character.
-/

namespace Analytics.Text

def escapeCode (c : Char) : String :=
  "\\u\x7b" ++ String.ofList (Nat.toDigits 16 c.toNat) ++ "\x7d"

structure EscapeStyle where
  doubleQuote : Bool
  singleQuote : Bool
  extending : Bool

def escapeChar (style : EscapeStyle) (c : Char) : String :=
  if c = '\x00' then "\\0"
  else if c = '\t' then "\\t"
  else if c = '\r' then "\\r"
  else if c = '\n' then "\\n"
  else if c = '\\' then "\\\\"
  else if c = '"' && style.doubleQuote then "\\\""
  else if c = '\x27' && style.singleQuote then "\\'"
  else if style.extending && isExtending c then escapeCode c
  else if isPrintable c then String.ofList [c]
  else escapeCode c

/-- Escapes a whole text. An extending character is escaped only where it comes first, since it
would join what stands before the text. -/
def escape (s : String) : String :=
  match s.toList with
  | [] => ""
  | c :: rest =>
    escapeChar ⟨true, true, true⟩ c ++ String.join (rest.map (escapeChar ⟨true, true, false⟩))

def quoteChar (c : Char) : String := "'" ++ escapeChar ⟨false, true, true⟩ c ++ "'"

end Analytics.Text
