import Analytics.Number.Reading
import Analytics.Time.Writing
import Mathlib.Order.Basic
import Mathlib.Tactic.Ring

/-!
Runs of digits. What a number is written as reads back as the number, and runs of one length stand
in the order of their numbers.
-/

namespace Analytics

theorem isDigit_of_toDigits {c : Char} {n : Nat} (member : c ∈ Nat.toDigits 10 n) :
    Digits.isDigit c = true :=
  Nat.isDigit_of_mem_toDigits (by decide) (Nat.le_refl 10) member

theorem toDigits_free {c : Char} (n : Nat) (noDigit : Digits.isDigit c = false) :
    c ∉ Nat.toDigits 10 n := fun member =>
  Bool.false_ne_true (noDigit.symm.trans (isDigit_of_toDigits member))

namespace Digits

abbrev Run (cs : List Char) : Prop := ∀ c ∈ cs, isDigit c = true

theorem run_toDigits (n : Nat) : Run (Nat.toDigits 10 n) := fun _ => isDigit_of_toDigits

theorem toNat_eq_ofDigitChars (cs : List Char) : toNat cs = Nat.ofDigitChars 10 cs 0 := by
  simp only [toNat, Nat.ofDigitChars_eq_foldl, value, Nat.mul_comm]

theorem toNat_append (cs ds : List Char) :
    toNat (cs ++ ds) = toNat cs * 10 ^ ds.length + toNat ds := by
  simp only [toNat_eq_ofDigitChars, Nat.ofDigitChars_append]
  rw [Nat.ofDigitChars_eq_ofDigitChars_zero, Nat.mul_comm]

theorem toNat_cons (c : Char) (cs : List Char) :
    toNat (c :: cs) = value c * 10 ^ cs.length + toNat cs := by
  rw [show c :: cs = [c] ++ cs from rfl, toNat_append]
  simp [toNat]

theorem toNat_toDigits (n : Nat) : toNat (Nat.toDigits 10 n) = n := by
  rw [toNat_eq_ofDigitChars, Nat.ofDigitChars_ten_toDigits]

theorem toNat_zeros (count : Nat) (cs : List Char) :
    toNat (List.replicate count '0' ++ cs) = toNat cs := by
  rw [toNat_append, toNat_eq_ofDigitChars (List.replicate _ _), Nat.ofDigitChars_replicate_zero]
  simp

/-- A digit lies between the first and the last one. -/
theorem bounds {c : Char} (digit : isDigit c = true) : 48 ≤ c.toNat ∧ c.toNat ≤ 57 := by
  simp only [isDigit, Bool.and_eq_true, decide_eq_true_eq, Char.le_def] at digit
  exact ⟨UInt32.le_iff_toNat_le.mp digit.1, UInt32.le_iff_toNat_le.mp digit.2⟩

theorem value_eq (c : Char) : value c = c.toNat - 48 := rfl

theorem value_lt {c : Char} (digit : isDigit c = true) : value c < 10 := by
  have := bounds digit
  rw [value_eq]
  omega

theorem value_lt_iff {c d : Char} (first : isDigit c = true) (second : isDigit d = true) :
    c < d ↔ value c < value d := by
  have := bounds first
  have := bounds second
  rw [value_eq, value_eq, Char.lt_def, UInt32.lt_iff_toNat_lt]
  change c.toNat < d.toNat ↔ _
  omega

theorem value_inj {c d : Char} (first : isDigit c = true) (second : isDigit d = true) :
    c = d ↔ value c = value d := by
  have := bounds first
  have := bounds second
  rw [value_eq, value_eq, ← Char.toNat_inj]
  omega

theorem toNat_lt {cs : List Char} (run : Run cs) : toNat cs < 10 ^ cs.length := by
  induction cs with
  | nil => decide
  | cons c cs ih =>
    obtain ⟨digit, rest⟩ := List.forall_mem_cons.mp run
    have first := value_lt digit
    have tail := ih rest
    have room : value c * 10 ^ cs.length + 10 ^ cs.length ≤ 10 * 10 ^ cs.length := by
      rw [← Nat.succ_mul]
      exact Nat.mul_le_mul_right _ first
    rw [toNat_cons, List.length_cons, Nat.pow_succ, Nat.mul_comm _ 10]
    omega

theorem lt_iff_toNat_lt {cs ds : List Char} (length : cs.length = ds.length) (first : Run cs)
    (second : Run ds) : cs < ds ↔ toNat cs < toNat ds := by
  induction cs generalizing ds with
  | nil =>
    obtain rfl := List.length_eq_zero_iff.mp length.symm
    simp
  | cons c cs ih =>
    cases ds with
    | nil => cases length
    | cons d ds =>
      obtain ⟨digit, rest⟩ := List.forall_mem_cons.mp first
      obtain ⟨digit', rest'⟩ := List.forall_mem_cons.mp second
      have lengths : cs.length = ds.length := Nat.succ.inj length
      have low := toNat_lt rest
      have high := toNat_lt rest'
      rw [lengths] at low
      rw [List.cons_lt_cons_iff, ih lengths rest rest', value_lt_iff digit digit',
        value_inj digit digit', toNat_cons, toNat_cons, lengths]
      -- The first digit counts more than all digits behind it.
      rcases Nat.lt_trichotomy (value c) (value d) with less | same | more
      · have := Nat.mul_le_mul_right (10 ^ ds.length) (Nat.succ_le_of_lt less)
        rw [Nat.succ_mul] at this
        omega
      · simp only [same, Nat.lt_irrefl, false_or, true_and, Nat.add_lt_add_iff_left]
      · have := Nat.mul_le_mul_right (10 ^ ds.length) (Nat.succ_le_of_lt more)
        rw [Nat.succ_mul] at this
        omega

/-- A run ends where something else follows, so what is behind it tells runs apart no more. -/
theorem Run.append_inj {cs ds : List Char} (first : Run cs) (second : Run ds) {c : Char}
    (noDigit : isDigit c = false) {as bs : List Char} :
    cs ++ c :: as = ds ++ c :: bs ↔ cs = ds ∧ as = bs := by
  refine ⟨fun same => ?_, fun ⟨front, back⟩ => by rw [front, back]⟩
  have front {cs : List Char} (run : Run cs) (as : List Char) :
      (cs ++ c :: as).takeWhile isDigit = cs := by
    rw [List.takeWhile_append_of_pos run, List.takeWhile_cons_of_neg (by simp [noDigit]),
      List.append_nil]
  obtain rfl : cs = ds := by rw [← front first as, same, front second]
  exact ⟨rfl, (List.cons.inj (List.append_cancel_left same)).2⟩

end Digits

theorem toList_padded (width n : Nat) : (padded width n).toList
    = List.replicate (width - (Nat.toDigits 10 n).length) '0' ++ Nat.toDigits 10 n := by
  rw [padded, String.toList_ofList]

theorem run_padded (width n : Nat) : Digits.Run (padded width n).toList := by
  intro c member
  rw [toList_padded] at member
  rcases List.mem_append.mp member with zero | digit
  · rw [List.eq_of_mem_replicate zero]
    rfl
  · exact isDigit_of_toDigits digit

theorem exists_padded_cons (width n : Nat) :
    ∃ c cs, (padded width n).toList = c :: cs ∧ Digits.isDigit c = true := by
  have some_ : (padded width n).toList ≠ [] := by
    rw [toList_padded]
    exact List.append_ne_nil_of_right_ne_nil _ Nat.toDigits_ne_nil
  obtain ⟨c, cs, shape⟩ := List.exists_cons_of_ne_nil some_
  exact ⟨c, cs, shape, run_padded width n c (shape ▸ List.mem_cons_self)⟩

theorem cons_ne_padded {sign : Char} (noDigit : Digits.isDigit sign = false) (width n : Nat)
    (rest cs : List Char) : sign :: rest ≠ (padded width n).toList ++ cs := by
  intro same
  obtain ⟨first, tail, shape, digit⟩ := exists_padded_cons width n
  rw [shape] at same
  rw [(List.cons.inj same).1, digit] at noDigit
  cases noDigit

@[simp] theorem toNat_padded (width n : Nat) : Digits.toNat (padded width n).toList = n := by
  rw [toList_padded, Digits.toNat_zeros, Digits.toNat_toDigits]

/-- A number that needs no more digits has exactly the width. -/
theorem length_padded {width n : Nat} (wide : 0 < width) (fits : n < 10 ^ width) :
    (padded width n).toList.length = width := by
  have := (Nat.length_toDigits_le_iff (by decide) wide).mpr fits
  rw [toList_padded, List.length_append, List.length_replicate]
  omega

theorem width_lt_length_padded {width n : Nat} (wide : 0 < width) (large : 10 ^ width ≤ n) :
    width < (padded width n).toList.length := by
  have := mt (Nat.length_toDigits_le_iff (b := 10) (by decide) wide).mp (not_lt.mpr large)
  rw [toList_padded, List.length_append, List.length_replicate]
  omega

theorem padded_lt_iff {width n m : Nat} (wide : 0 < width) (fits : n < 10 ^ width)
    (fits' : m < 10 ^ width) : (padded width n).toList < (padded width m).toList ↔ n < m := by
  have length := (length_padded wide fits).trans (length_padded wide fits').symm
  rw [Digits.lt_iff_toNat_lt length (run_padded _ _) (run_padded _ _), toNat_padded, toNat_padded]

theorem padded_inj {width n m : Nat} : (padded width n).toList = (padded width m).toList ↔ n = m :=
  ⟨fun same => by rw [← toNat_padded width n, same, toNat_padded], fun same => by rw [same]⟩

end Analytics
