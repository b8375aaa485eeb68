import Analytics.Json.Parser
import Analytics.Json.Printer
import Mathlib.Data.List.Basic

/-!
Texts in JSON. A text whose characters need no escape is printed as it stands between quotes, and is
read back from there.
-/

namespace Analytics.Json

/-- A character that is printed as it is. -/
def IsPlain (c : Char) : Prop := escapeChar c = [c]

theorem IsPlain.bare {c : Char} (plain : IsPlain c) : c ≠ '"' ∧ c ≠ '\\' ∧ ¬ c.toNat < 32 := by
  unfold IsPlain at plain
  refine ⟨?_, ?_, fun small => ?_⟩
  · rintro rfl
    exact absurd plain (by decide)
  · rintro rfl
    exact absurd plain (by decide)
  · have controls : ∀ n < 32, escapeChar (Char.ofNat n) ≠ [Char.ofNat n] := by decide
    rw [← Char.ofNat_toNat c] at plain
    exact controls c.toNat small plain

variable {s : String}

theorem quote_plain (plain : ∀ c ∈ s.toList, IsPlain c) : quote s = "\"" ++ s ++ "\"" := by
  have kept : s.toList.flatMap escapeChar = s.toList :=
    (List.flatMap_congr plain).trans (List.flatMap_singleton' s.toList)
  rw [quote, kept, ← String.toList_inj]
  simp

theorem readString_plain {cs : List Char} (plain : ∀ c ∈ cs, IsPlain c) (done rest : List Char) :
    readString done (cs ++ '"' :: rest) = some (done.reverse ++ cs, rest) := by
  induction cs generalizing done with
  | nil => simp [readString]
  | cons c cs ih =>
    obtain ⟨noQuote, noEscape, printed⟩ := (plain c List.mem_cons_self).bare
    have step : readString done (c :: (cs ++ '"' :: rest))
        = readString (c :: done) (cs ++ '"' :: rest) := by
      rw [readString]
      · rw [if_neg printed]
      · exact noQuote
      · exact fun _ _ _ _ _ _ _ _ _ here => absurd here noEscape
      · exact fun _ _ _ _ _ here => absurd here noEscape
      · exact fun _ _ here => absurd here noEscape
    rw [List.cons_append, step, ih fun d member => plain d (List.mem_cons_of_mem c member),
      List.reverse_cons, List.append_assoc]
    rfl

theorem parse?_plain (plain : ∀ c ∈ s.toList, IsPlain c) :
    Json.parse? ("\"" ++ s ++ "\"") = some (.text s) := by
  have written : ("\"" ++ s ++ "\"").toList = '"' :: (s.toList ++ ['"']) := by
    simp only [String.toList_append]
    rfl
  have text (steps : Nat) (rest : List Char) : readValue (steps + 1) nestingLimit ('"' :: rest)
      = (readString [] rest).map fun read => (.text (String.ofList read.1), read.2) := rfl
  have first : readFirst ('"' :: (s.toList ++ ['"'])) = some (.text s, []) := by
    rw [readFirst, text, readString_plain plain]
    simp
  rw [parse?, written, first]
  rfl

end Analytics.Json
