import Analytics.Proofs.Json.Numbers
import Analytics.Proofs.Time.Printed
import Analytics.Time.Operand

/-!
What texts of instants hold. No step of reading passes over a comma, so that a text of an instant
holds none; and a whole number alone is no text of an instant, for want of a dash behind its year.
-/

namespace Analytics.TimeReading

open Text (trimLeft isBlank)

variable {cs rest : List Char}

/-- Whether no comma is lost from a text to the rest of it that is still to be read. -/
def Spares (cs rest : List Char) : Prop := ',' ∈ cs → ',' ∈ rest

theorem Spares.nil (spares : Spares cs rest) (none : rest.isEmpty = true) : ',' ∉ cs := by
  intro member
  have left := spares member
  rw [List.isEmpty_iff.mp none] at left
  exact List.not_mem_nil left

theorem spares_cons {c : Char} (other : ',' ≠ c) : Spares (c :: rest) rest := by
  intro member
  rcases List.mem_cons.mp member with same | later
  · exact absurd same other
  · exact later

theorem spares_dropWhile {passes : Char → Bool} (other : passes ',' = false) (cs : List Char) :
    Spares cs (cs.dropWhile passes) := by
  intro member
  rw [← List.takeWhile_append_dropWhile (p := passes) (l := cs)] at member
  rcases List.mem_append.mp member with front | back
  · rw [List.mem_takeWhile_imp front] at other
    cases other
  · exact back

theorem spares_trimLeft (cs : List Char) : Spares cs (trimLeft cs) :=
  spares_dropWhile (by decide) cs

theorem number_digits {least most n : Nat} (read : number least most cs = some (n, rest)) :
    ∃ digits, Digits.Run digits ∧ cs = digits ++ rest := by
  have run : Digits.Run ((cs.take most).takeWhile Digits.isDigit) := fun c => List.mem_takeWhile_imp
  obtain ⟨back, whole⟩ : (cs.take most).takeWhile Digits.isDigit <+: cs :=
    (List.takeWhile_prefix _).trans (List.take_prefix most cs)
  unfold number at read
  dsimp only at read
  generalize (cs.take most).takeWhile Digits.isDigit = digits at *
  split_ifs at read
  obtain ⟨-, rfl⟩ := Prod.mk.inj (Option.some.inj read)
  exact ⟨digits, run, by rw [← whole, List.drop_left]⟩

theorem number_spares {least most n : Nat} (read : number least most cs = some (n, rest)) :
    Spares cs rest := by
  obtain ⟨digits, run, rfl⟩ := number_digits read
  intro member
  rcases List.mem_append.mp member with front | back
  · exact absurd (run ',' front) (by decide)
  · exact back

theorem expect_spares {c : Char} (read : expect c cs = some rest) (other : ',' ≠ c) :
    Spares cs rest := by
  cases cs with
  | nil => cases read
  | cons d cs =>
    rw [expect, Option.ite_none_right_eq_some] at read
    obtain ⟨rfl, same⟩ := read
    cases same
    exact spares_cons other

theorem field_spares {n : Nat} (read : field cs = some (n, rest)) : Spares cs rest :=
  fun member => number_spares read (spares_trimLeft cs member)

theorem year_spares {y : Int} (read : year cs = some (y, rest)) : Spares cs rest := by
  intro member
  have trimmed := spares_trimLeft cs member
  unfold year at read
  split at read
  · rename_i back shape
    obtain ⟨⟨n, left⟩, read, same⟩ := Option.map_eq_some_iff.mp read
    cases same
    rw [shape] at trimmed
    exact number_spares read (spares_cons (by decide) trimmed)
  · rename_i back shape
    obtain ⟨⟨n, left⟩, read, same⟩ := Option.map_eq_some_iff.mp read
    cases same
    rw [shape] at trimmed
    exact number_spares read (spares_cons (by decide) trimmed)
  · obtain ⟨⟨n, left⟩, read, same⟩ := Option.map_eq_some_iff.mp read
    cases same
    exact number_spares read trimmed

theorem fraction_spares {n : Nat} (read : fraction cs = some (n, rest)) : Spares cs rest := by
  intro member
  unfold fraction at read
  split at read
  · split at read
    · rename_i found
      cases read
      exact spares_dropWhile (by decide) _ (number_spares found (spares_cons (by decide) member))
    · cases read
  · cases read
    exact member

theorem separatorMark_spares (read : separatorMark cs = some rest) : Spares cs rest := by
  unfold separatorMark at read
  split at read <;> cases read <;> exact spares_cons (by decide)

theorem offset_spares {o : Int} (read : offset (expect ':') cs = some (o, rest)) :
    Spares cs rest := by
  have signed {c : Char} {back c1 c2 c3 : List Char} {h m : Nat} (other : ',' ≠ c)
      (hours : number 2 2 back = some (h, c1)) (parted : expect ':' c1 = some c2)
      (minutes : number 2 2 c2 = some (m, c3)) : Spares (c :: back) c3 := by
    intro member
    apply number_spares minutes
    apply expect_spares parted (by decide)
    apply number_spares hours
    exact spares_cons other member
  unfold offset at read
  simp only [Option.bind_eq_bind, Option.pure_def] at read
  split at read
  · cases read
    exact spares_cons (by decide)
  · cases read
    exact spares_cons (by decide)
  -- The three signs in front of hours and minutes.
  iterate 3
    · obtain ⟨hours, first, read⟩ := Option.bind_eq_some_iff.mp read
      obtain ⟨back, second, read⟩ := Option.bind_eq_some_iff.mp read
      obtain ⟨minutes, third, read⟩ := Option.bind_eq_some_iff.mp read
      rw [Option.ite_none_right_eq_some] at read
      cases read.2
      exact signed (by decide) first second third
  · rw [Option.ite_none_right_eq_some, Bool.and_eq_true, Bool.and_eq_true, decide_eq_true_eq,
      decide_eq_true_eq, decide_eq_true_eq] at read
    obtain ⟨⟨⟨first, second⟩, third⟩, same⟩ := read
    cases same
    have other {c d : Char} (lower : Text.lowerChar c = d) (known : Text.lowerChar ',' ≠ d) :
        ',' ≠ c := by
      rintro rfl
      exact known lower
    intro member
    apply spares_cons (other third (by decide))
    apply spares_cons (other second (by decide))
    exact spares_cons (other first (by decide)) member
  · cases read

theorem date_spares {d : Date} (read : date cs = some (d, rest)) : Spares cs rest := by
  obtain ⟨⟨y, c1⟩, first, read⟩ := Option.bind_eq_some_iff.mp read
  obtain ⟨c2, second, read⟩ := Option.bind_eq_some_iff.mp read
  obtain ⟨⟨m, c3⟩, third, read⟩ := Option.bind_eq_some_iff.mp read
  obtain ⟨c4, fourth, read⟩ := Option.bind_eq_some_iff.mp read
  obtain ⟨⟨n, c5⟩, fifth, read⟩ := Option.bind_eq_some_iff.mp read
  cases read
  intro member
  apply field_spares fifth
  apply expect_spares fourth (by decide)
  apply field_spares third
  apply expect_spares second (by decide)
  exact year_spares first member

variable {t : Instant}

theorem strict_commaless (read : strict? cs = some t) : ',' ∉ cs := by
  obtain ⟨⟨y, c1⟩, first, read⟩ := Option.bind_eq_some_iff.mp read
  obtain ⟨c2, second, read⟩ := Option.bind_eq_some_iff.mp read
  obtain ⟨⟨m, c3⟩, third, read⟩ := Option.bind_eq_some_iff.mp read
  obtain ⟨c4, fourth, read⟩ := Option.bind_eq_some_iff.mp read
  obtain ⟨⟨d, c5⟩, fifth, read⟩ := Option.bind_eq_some_iff.mp read
  obtain ⟨c6, sixth, read⟩ := Option.bind_eq_some_iff.mp read
  obtain ⟨⟨h, c7⟩, seventh, read⟩ := Option.bind_eq_some_iff.mp read
  obtain ⟨c8, eighth, read⟩ := Option.bind_eq_some_iff.mp read
  obtain ⟨⟨mi, c9⟩, ninth, read⟩ := Option.bind_eq_some_iff.mp read
  obtain ⟨c10, tenth, read⟩ := Option.bind_eq_some_iff.mp read
  obtain ⟨⟨s, c11⟩, eleventh, read⟩ := Option.bind_eq_some_iff.mp read
  obtain ⟨⟨n, c12⟩, twelfth, read⟩ := Option.bind_eq_some_iff.mp read
  obtain ⟨⟨o, c13⟩, last, read⟩ := Option.bind_eq_some_iff.mp read
  dsimp only at read
  rw [Option.ite_none_right_eq_some] at read
  have spares : Spares cs c13 := by
    intro member
    apply offset_spares last
    apply fraction_spares twelfth
    apply number_spares eleventh
    apply expect_spares tenth (by decide)
    apply number_spares ninth
    apply expect_spares eighth (by decide)
    apply number_spares seventh
    apply separatorMark_spares sixth
    apply number_spares fifth
    apply expect_spares fourth (by decide)
    apply number_spares third
    apply expect_spares second (by decide)
    exact number_spares first member
  exact spares.nil read.1

theorem dateTime_commaless (read : dateTime? cs = some t) : ',' ∉ cs := by
  obtain ⟨⟨d, c1⟩, first, read⟩ := Option.bind_eq_some_iff.mp read
  obtain ⟨⟨h, c2⟩, second, read⟩ := Option.bind_eq_some_iff.mp read
  obtain ⟨c3, third, read⟩ := Option.bind_eq_some_iff.mp read
  obtain ⟨⟨m, c4⟩, fourth, read⟩ := Option.bind_eq_some_iff.mp read
  obtain ⟨c5, fifth, read⟩ := Option.bind_eq_some_iff.mp read
  obtain ⟨⟨s, c6⟩, sixth, read⟩ := Option.bind_eq_some_iff.mp read
  dsimp only at read
  rw [Option.ite_none_right_eq_some] at read
  have spares : Spares cs c6 := by
    intro member
    apply field_spares sixth
    apply expect_spares fifth (by decide)
    apply field_spares fourth
    apply expect_spares third (by decide)
    apply field_spares second
    apply spares_trimLeft
    exact date_spares first member
  exact spares.nil read.1

theorem date_commaless (read : date? cs = some t) : ',' ∉ cs := by
  obtain ⟨⟨d, c1⟩, first, read⟩ := Option.bind_eq_some_iff.mp read
  dsimp only at read
  rw [Option.ite_none_right_eq_some, Bool.and_eq_true] at read
  exact (date_spares first).nil read.1.1

/-- A text of an instant holds no comma. -/
theorem instantText_commaless (read : instantText? cs = some t) : ',' ∉ cs := by
  simp only [instantText?, Option.orElse_eq_or, Option.or_eq_some_iff] at read
  obtain strict | ⟨-, dateTime | ⟨-, date⟩⟩ := read
  · exact strict_commaless strict
  · exact dateTime_commaless dateTime
  · exact date_commaless date

theorem expect_run (run : Digits.Run cs) : expect '-' cs = none := by
  cases cs with
  | nil => rfl
  | cons c cs =>
    have digit := run c List.mem_cons_self
    rw [expect, if_neg]
    rintro rfl
    cases digit

theorem number_run_rest {least most n : Nat} (run : Digits.Run cs)
    (read : number least most cs = some (n, rest)) : Digits.Run rest := by
  obtain ⟨digits, -, rfl⟩ := number_digits read
  exact fun c member => run c (List.mem_append_right digits member)

/-- Digits, alone or behind a minus sign. -/
inductive IsWhole : List Char → Prop
  | bare {ds : List Char} (run : Digits.Run ds) : IsWhole ds
  | negative {ds : List Char} (run : Digits.Run ds) : IsWhole ('-' :: ds)

theorem year_run {y : Int} (whole : IsWhole cs) (read : year cs = some (y, rest)) :
    Digits.Run rest := by
  unfold year at read
  cases whole with
  | bare run =>
    have trimmed : trimLeft cs = cs := by
      cases cs with
      | nil => rfl
      | cons c cs => exact trimLeft_cons (isBlank_digit (run c List.mem_cons_self)) cs
    rw [trimmed] at read
    split at read
    · exact absurd (run '-' List.mem_cons_self) (by decide)
    · exact absurd (run '+' List.mem_cons_self) (by decide)
    · obtain ⟨⟨n, left⟩, read, same⟩ := Option.map_eq_some_iff.mp read
      cases same
      exact number_run_rest run read
  | negative run =>
    rw [trimLeft_cons (by decide)] at read
    obtain ⟨⟨n, left⟩, read, same⟩ := Option.map_eq_some_iff.mp read
    cases same
    exact number_run_rest run read

theorem strict_whole (whole : IsWhole cs) : strict? cs = none := by
  apply Option.eq_none_iff_forall_ne_some.mpr
  intro t read
  obtain ⟨⟨y, c1⟩, first, read⟩ := Option.bind_eq_some_iff.mp read
  obtain ⟨c2, second, -⟩ := Option.bind_eq_some_iff.mp read
  cases whole with
  | bare run =>
    rw [expect_run (number_run_rest run first)] at second
    cases second
  | negative run =>
    rw [number_sign (by decide)] at first
    cases first

theorem date_whole (whole : IsWhole cs) : date cs = none := by
  apply Option.eq_none_iff_forall_ne_some.mpr
  rintro ⟨d, rest⟩ read
  obtain ⟨⟨y, c1⟩, first, read⟩ := Option.bind_eq_some_iff.mp read
  obtain ⟨c2, second, -⟩ := Option.bind_eq_some_iff.mp read
  rw [expect_run (year_run whole first)] at second
  cases second

theorem instantText_whole (i : Int) : instantText? (toString i).toList = none := by
  have whole : IsWhole (toString i).toList := by
    rw [Json.toList_toString]
    split_ifs
    · exact .negative (Digits.run_toDigits _)
    · exact .bare (Digits.run_toDigits _)
  rw [instantText?, strict_whole whole, dateTime?, date?, date_whole whole]
  rfl

end Analytics.TimeReading
