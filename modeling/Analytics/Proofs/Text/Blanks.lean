import Analytics.Proofs.Number.Digits
import Analytics.Text.Blank
import Mathlib.Data.List.TakeWhile

/-!
Blanks around texts. Trimming takes nothing but blanks away, and nothing at all from a text that
has none at its ends.
-/

namespace Analytics

theorem isBlank_digit {c : Char} (digit : Digits.isDigit c = true) : Text.isBlank c = false := by
  have bounds := Digits.bounds digit
  simp only [Text.isBlank, Bool.or_eq_false_iff, Bool.and_eq_false_iff, decide_eq_false_iff_not]
  omega

/-- A text without a blank at either end is not trimmed. -/
theorem Text.trimChars_tight {cs : List Char} (first : ∀ c ∈ cs.head?, isBlank c = false)
    (last : ∀ c ∈ cs.getLast?, isBlank c = false) : trimChars cs = cs := by
  have tight {cs : List Char} (first : ∀ c ∈ cs.head?, isBlank c = false) :
      cs.dropWhile isBlank = cs := by
    cases cs with
    | nil => rfl
    | cons c cs => exact List.dropWhile_cons_of_neg (by simp [first c rfl])
  have back : cs.reverse.dropWhile isBlank = cs.reverse :=
    tight (by rwa [List.head?_reverse])
  rw [trimChars, trimLeft, tight first, trimRight, back, List.reverse_reverse]

theorem Text.mem_trimChars {cs : List Char} {c : Char} (seen : isBlank c = false)
    (member : c ∈ cs) : c ∈ trimChars cs := by
  have kept {cs : List Char} (member : c ∈ cs) : c ∈ cs.dropWhile isBlank := by
    rw [← List.takeWhile_append_dropWhile (p := isBlank) (l := cs)] at member
    rcases List.mem_append.mp member with front | back
    · rw [List.mem_takeWhile_imp front] at seen
      cases seen
    · exact back
  rw [trimChars, trimRight, List.mem_reverse]
  exact kept (List.mem_reverse.mpr (kept member))

end Analytics
