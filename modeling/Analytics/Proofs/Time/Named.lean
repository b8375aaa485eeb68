import Analytics.Proofs.Number.Digits
import Analytics.Time.Operand
import Mathlib.Data.List.TakeWhile

/-!
The instants that requests name. Their nanoseconds stay within a second, or within the leap second that
follows the last second of a minute.
-/

namespace Analytics

/-- An instant within a second, or within a leap second behind the last second of a minute. -/
def Instant.OnClock (t : Instant) : Prop :=
  t.nanos < nanosPerSecond ∨ t.nanos < 2 * nanosPerSecond ∧ t.seconds % 60 = 59

instance (t : Instant) : Decidable t.OnClock := inferInstanceAs (Decidable (_ ∨ _))

namespace TimeReading

theorem number_ok {least most n : Nat} {cs rest : List Char}
    (read : number least most cs = some (n, rest)) :
    n < 10 ^ (cs.length - rest.length) ∧ cs.length - rest.length ≤ most := by
  unfold number at read
  dsimp only at read
  split at read
  · cases read
  · obtain ⟨rfl, rfl⟩ := Prod.mk.inj (Option.some.inj read)
    have run : Digits.Run ((cs.take most).takeWhile Digits.isDigit) :=
      fun c member => List.mem_takeWhile_imp member
    have short : ((cs.take most).takeWhile Digits.isDigit).length ≤ (cs.take most).length :=
      (List.takeWhile_sublist _).length_le
    rw [List.length_take] at short
    have taken : cs.length - (cs.drop ((cs.take most).takeWhile Digits.isDigit).length).length
        = ((cs.take most).takeWhile Digits.isDigit).length := by
      rw [List.length_drop]
      omega
    rw [taken]
    exact ⟨Digits.toNat_lt run, by omega⟩

theorem fraction_lt {n : Nat} {cs rest : List Char} (read : fraction cs = some (n, rest)) :
    n < nanosPerSecond := by
  unfold fraction at read
  split at read
  · rename_i behind
    split at read
    · rename_i m after digits
      obtain ⟨rfl, -⟩ := Prod.mk.inj (Option.some.inj read)
      obtain ⟨small, few⟩ := number_ok digits
      calc m * tenPow (9 - (behind.length - after.length))
          < 10 ^ (behind.length - after.length) * 10 ^ (9 - (behind.length - after.length)) :=
            Nat.mul_lt_mul_of_pos_right small (Nat.pow_pos (by decide))
        _ = 10 ^ 9 := by rw [← Nat.pow_add, Nat.add_sub_cancel' few]
    · cases read
  · cases read
    decide

theorem offset_minutes {separator : List Char → Option (List Char)} {cs rest : List Char} {o : Int}
    (read : offset separator cs = some (o, rest)) : o % 60 = 0 := by
  have zero {rest' : List Char} (read : some ((0 : Int), rest') = some (o, rest)) : o % 60 = 0 := by
    cases read
    rfl
  have signed {size : Int} {within : Prop} [Decidable within] {rest' : List Char}
      (whole : size % 60 = 0)
      (read : (if within then some (size, rest') else none) = some (o, rest)) : o % 60 = 0 := by
    split at read
    · cases read
      exact whole
    · cases read
  unfold offset at read
  simp only [Option.bind_eq_bind, Option.pure_def] at read
  split at read
  · exact zero read
  · exact zero read
  · obtain ⟨hours, -, read⟩ := Option.bind_eq_some_iff.mp read
    obtain ⟨_, -, read⟩ := Option.bind_eq_some_iff.mp read
    obtain ⟨minutes, -, read⟩ := Option.bind_eq_some_iff.mp read
    exact signed (by split <;> omega) read
  · obtain ⟨hours, -, read⟩ := Option.bind_eq_some_iff.mp read
    obtain ⟨_, -, read⟩ := Option.bind_eq_some_iff.mp read
    obtain ⟨minutes, -, read⟩ := Option.bind_eq_some_iff.mp read
    exact signed (by split <;> omega) read
  · obtain ⟨hours, -, read⟩ := Option.bind_eq_some_iff.mp read
    obtain ⟨_, -, read⟩ := Option.bind_eq_some_iff.mp read
    obtain ⟨minutes, -, read⟩ := Option.bind_eq_some_iff.mp read
    exact signed (by split <;> omega) read
  · split at read
    · exact zero read
    · cases read
  · cases read

theorem wallTime_onClock {d : Date} {hour minute second nanos : Nat} {t : WallTime}
    (small : nanos < nanosPerSecond) (read : wallTime? d hour minute second nanos = some t) {o : Int}
    (whole : o % 60 = 0) : (t.toInstant o).OnClock := by
  unfold wallTime? at read
  split at read
  · cases read
    simp only [Instant.OnClock, WallTime.toInstant]
    split
    · rename_i leap
      subst leap
      refine .inr ⟨by omega, ?_⟩
      omega
    · exact .inl small
  · cases read

theorem strict_onClock {cs : List Char} {t : Instant} (read : strict? cs = some t) : t.OnClock := by
  unfold strict? at read
  obtain ⟨_, -, read⟩ := Option.bind_eq_some_iff.mp read
  obtain ⟨_, -, read⟩ := Option.bind_eq_some_iff.mp read
  obtain ⟨_, -, read⟩ := Option.bind_eq_some_iff.mp read
  obtain ⟨_, -, read⟩ := Option.bind_eq_some_iff.mp read
  obtain ⟨_, -, read⟩ := Option.bind_eq_some_iff.mp read
  obtain ⟨_, -, read⟩ := Option.bind_eq_some_iff.mp read
  obtain ⟨_, -, read⟩ := Option.bind_eq_some_iff.mp read
  obtain ⟨_, -, read⟩ := Option.bind_eq_some_iff.mp read
  obtain ⟨_, -, read⟩ := Option.bind_eq_some_iff.mp read
  obtain ⟨_, -, read⟩ := Option.bind_eq_some_iff.mp read
  obtain ⟨_, -, read⟩ := Option.bind_eq_some_iff.mp read
  obtain ⟨_, fraction, read⟩ := Option.bind_eq_some_iff.mp read
  obtain ⟨_, offset, read⟩ := Option.bind_eq_some_iff.mp read
  dsimp only at read
  split at read
  · obtain ⟨wall, shown, made⟩ := Option.bind_eq_some_iff.mp read
    rw [instant?, Option.ite_none_right_eq_some] at made
    rw [← Option.some.inj made.2]
    exact wallTime_onClock (fraction_lt fraction) shown (offset_minutes offset)
  · cases read

theorem dateTime_onClock {cs : List Char} {t : Instant} (read : dateTime? cs = some t) :
    t.OnClock := by
  simp only [dateTime?, Option.bind_eq_bind, Option.bind_eq_some_iff, Prod.exists] at read
  obtain ⟨d, _, -, h, _, -, _, -, m, _, -, _, -, s, _, -, read⟩ := read
  split at read
  · obtain ⟨wall, shown, made⟩ := Option.bind_eq_some_iff.mp read
    rw [← Option.some.inj made]
    exact wallTime_onClock (by decide) shown rfl
  · cases read

theorem date_onClock {cs : List Char} {t : Instant} (read : date? cs = some t) : t.OnClock := by
  simp only [date?, Option.bind_eq_bind, Option.bind_eq_some_iff, Prod.exists] at read
  obtain ⟨d, _, -, read⟩ := read
  rw [Option.ite_none_right_eq_some] at read
  rw [← Option.some.inj read.2]
  exact .inl (by decide : 0 < nanosPerSecond)

end TimeReading

namespace Instant

theorem ofMillis_onClock {millis : Int} {t : Instant} (read : ofMillis? millis = some t) :
    t.OnClock := by
  rw [ofMillis?, Option.ite_none_right_eq_some] at read
  rw [← Option.some.inj read.2]
  refine .inl ?_
  simp only [nanosPerSecond]
  omega

end Instant

end Analytics
