import Analytics.Json.Parser
import Analytics.Proofs.Number.Digits
import Mathlib.Tactic.IntervalCases

/-!
Whole numbers in JSON text. What is printed for a whole number of a word is read back as that
number, wherever nothing behind it goes on as a number.
-/

namespace Analytics.Json

theorem toList_toString (i : Int) : (toString i).toList
    = if i < 0 then '-' :: Nat.toDigits 10 i.natAbs else Nat.toDigits 10 i.natAbs := by
  cases i with
  | ofNat n =>
    rw [if_neg (by simp)]
    exact String.toList_ofList
  | negSucc n =>
    rw [if_pos (Int.negSucc_lt_zero n)]
    have text : toString (Int.negSucc n) = "-" ++ String.ofList (Nat.toDigits 10 (n + 1)) := rfl
    rw [text, String.toList_append, String.toList_ofList, String.toList_ofList]
    rfl

theorem head_toDigits {n : Nat} (positive : 0 < n) : (Nat.toDigits 10 n).head? ≠ some '0' := by
  induction n using Nat.strong_induction_on with
  | h n ih =>
    rw [Nat.toDigits_eq_if (by decide)]
    split
    case isTrue small =>
      have digits : ∀ d < 10, 0 < d → [d.digitChar].head? ≠ some '0' := by decide
      exact digits n small positive
    case isFalse large =>
      have shorter := ih (n / 10) (by omega) (by omega)
      obtain ⟨c, cs, shape⟩ :=
        List.exists_cons_of_ne_nil (Nat.toDigits_ne_nil (b := 10) (n := n / 10))
      rw [shape] at shorter ⊢
      exact shorter

/-- Where a number ends: no digit, point or exponent follows. -/
def EndsNumber (rest : List Char) : Prop :=
  ∀ c ∈ rest.head?, Digits.isDigit c = false ∧ c ≠ '.' ∧ c ≠ 'e' ∧ c ≠ 'E'

theorem readNumber_digits (negative : Bool) (n : Nat) {rest : List Char} (ends : EndsNumber rest) :
    readNumber negative (Nat.toDigits 10 n ++ rest)
      = (wholeOf negative (Nat.toDigits 10 n)).map (·, rest) := by
  have stop : rest.takeWhile Digits.isDigit = [] ∧ rest.dropWhile Digits.isDigit = rest := by
    cases rest with
    | nil => exact ⟨rfl, rfl⟩
    | cons c cs =>
      have noDigit := (ends c rfl).1
      exact ⟨List.takeWhile_cons_of_neg (by simp [noDigit]),
        List.dropWhile_cons_of_neg (by simp [noDigit])⟩
  have whole : (Nat.toDigits 10 n ++ rest).takeWhile Digits.isDigit = Nat.toDigits 10 n := by
    rw [List.takeWhile_append_of_pos (Digits.run_toDigits n), stop.1, List.append_nil]
  have after : (Nat.toDigits 10 n ++ rest).dropWhile Digits.isDigit = rest := by
    rw [List.dropWhile_append_of_pos (Digits.run_toDigits n), stop.2]
  have some_ : (Nat.toDigits 10 n).isEmpty = false := by
    rw [List.isEmpty_eq_false_iff]
    exact Nat.toDigits_ne_nil
  -- No digits are printed with a zero in front, but for zero itself.
  have laid : ((Nat.toDigits 10 n).length ≠ 1 && (Nat.toDigits 10 n).head? = some '0') = false := by
    rcases Nat.eq_zero_or_pos n with rfl | positive
    · rfl
    · simp [head_toDigits positive]
  unfold readNumber
  simp only [whole, after, some_, laid, Bool.or_self, Bool.false_eq_true, if_false]
  cases rest with
  | nil => rfl
  | cons c cs =>
    obtain ⟨-, noPoint, noExponent, noExponent'⟩ := ends c rfl
    split
    case h_1 none_ =>
      split at none_
      · simp_all
      · cases none_
    case h_2 fraction rest' found =>
      split at found
      · simp_all
      · obtain ⟨rfl, rfl⟩ := Prod.mk.inj (Option.some.inj found)
        simp [noExponent, noExponent']

theorem readValue_int {i : Int} (fits : fitsWord i = true) (steps depth : Nat) {rest : List Char}
    (ends : EndsNumber rest) :
    readValue (steps + 1) depth ((toString i).toList ++ rest) = some (.int i, rest) := by
  rw [fitsWord, Bool.and_eq_true, decide_eq_true_eq, decide_eq_true_eq, leastWord,
    greatestWord] at fits
  rw [toList_toString]
  split
  case isTrue negative =>
    have size : 0 < i.natAbs ∧ leastWord ≤ -(i.natAbs : Int) := by
      simp only [leastWord]
      omega
    have number : -(i.natAbs : Int) = i := by omega
    have sign : readValue (steps + 1) depth ('-' :: (Nat.toDigits 10 i.natAbs ++ rest))
        = readNumber true (Nat.toDigits 10 i.natAbs ++ rest) := rfl
    rw [List.cons_append, sign, readNumber_digits true i.natAbs ends, wholeOf,
      Digits.toNat_toDigits, if_pos rfl, if_pos size, number]
    rfl
  case isFalse positive =>
    have size : i.natAbs < wordCount64 := by
      simp only [wordCount64]
      omega
    have number : (i.natAbs : Int) = i := by omega
    have digit : readValue (steps + 1) depth (Nat.toDigits 10 i.natAbs ++ rest)
        = readNumber false (Nat.toDigits 10 i.natAbs ++ rest) := by
      obtain ⟨c, cs, shape⟩ := List.exists_cons_of_ne_nil (Nat.toDigits_ne_nil (n := i.natAbs))
      have first := Digits.run_toDigits i.natAbs c (shape ▸ List.mem_cons_self)
      have bounds := Digits.bounds first
      rw [shape, List.cons_append]
      obtain ⟨d, small, rfl⟩ : ∃ d < 10, c = Char.ofNat (d + 48) := by
        refine ⟨c.toNat - 48, by omega, ?_⟩
        rw [Nat.sub_add_cancel bounds.1, Char.ofNat_toNat]
      have cases_ : ∀ d < 10, readValue (steps + 1) depth (Char.ofNat (d + 48) :: (cs ++ rest))
          = readNumber false (Char.ofNat (d + 48) :: (cs ++ rest)) := by
        intro d small
        interval_cases d <;> rfl
      exact cases_ d small
    rw [digit, readNumber_digits false i.natAbs ends, wholeOf, Digits.toNat_toDigits,
      if_neg Bool.false_ne_true, if_pos size, number]
    rfl

end Analytics.Json
