import Analytics.Proofs.Query.Bounds
import Analytics.Proofs.Time.Printed

/-!
Date operands once they are bound. What an operand is bound as is an operand itself, which names
the instant at the precision of the column. Main statement: binding it once more changes nothing,
for texts of dates and clocks in all years that are kept, and for milliseconds outside leap
seconds.
-/

namespace Analytics

def Bind.asOperand : Bind → Json
  | .text s => .text s
  | .int i => .int i
  | .float x => .float x
  | .bool b => .bool b

namespace Filter

structure Settles (encoding : TimestampEncoding) (value : Json) (bound : Bind) (told : Instant) :
    Prop where
  binds : ∀ κ : Type, (operand (.temporal encoding) value : Checked (Scalar κ))
    = .ok (castTo encoding (.bound bound))
  names : Instant.ofJson bound.asOperand = .ok told
  again : ∀ κ : Type, (operand (.temporal encoding) bound.asOperand : Checked (Scalar κ))
    = .ok (castTo encoding (.bound bound))

theorem operand_temporal {encoding : TimestampEncoding} {value : Json} {t : Instant}
    (read : Instant.ofJson value = .ok t) (κ : Type) :
    (operand (.temporal encoding) value : Checked (Scalar κ))
      = .ok (castTo encoding (.bound (encodeInstant encoding t))) := by
  simp only [operand, read, Except.map]

theorem Settles.of_names {encoding : TimestampEncoding} {value : Json} {bound : Bind}
    {t told : Instant} (read : Instant.ofJson value = .ok t)
    (own : encodeInstant encoding t = bound) (names : Instant.ofJson bound.asOperand = .ok told)
    (same : encodeInstant encoding told = bound) : Settles encoding value bound told where
  binds κ := by rw [operand_temporal read, own]
  names := names
  again κ := by rw [operand_temporal names, same]

end Filter

namespace Instant

variable {t : Instant}

theorem dateTimeText_wholeSecond (clock : t.OnClock) :
    t.wholeSecond.dateTimeText = t.dateTimeText := by
  have second : t.wholeSecond.utc.second = t.utc.second := by
    rw [utc_eq, utc_eq]
    simp only [WallTime.second, wholeSecond, isLeap_iff, OnClock, WallTime.secondOfDay,
      nanosPerSecond] at clock ⊢
    split_ifs <;> omega
  rw [dateTimeText, dateTimeText, WallTime.dateTimeText, WallTime.dateTimeText, WallTime.clockText,
    WallTime.clockText, second]
  rfl

theorem dateText_midnight (t : Instant) : t.midnight.dateText = t.dateText := by
  have date : t.midnight.utc.date = t.utc.date := by
    rw [← WallTime.date_ofDate t.utc.date_onCalendar]
    congr 1
    rw [midnight, utc_eq, WallTime.toInstant, Int.sub_zero]
  rw [dateText, dateText, date]

theorem toMillis_floor (t : Instant) :
    (TimestampEncoding.timestampMs.floor t).toMillis = t.toMillis := by
  simp only [toMillis, TimestampEncoding.floor]
  omega

end Instant

namespace Filter

/-- A date operand is bound for good. For a column of dates with a clock it is a text that names
the instant without the parts of its second, a leap second staying one; for a column of dates a
text that names the midnight of the instant's date; for a column of milliseconds, unless the
instant is inside a leap second, a whole number that names it without what is finer. -/
theorem operand_settles {value : Json} {t : Instant} (read : Instant.ofJson value = .ok t) :
    Settles .datetime value (.text t.dateTimeText) t.wholeSecond ∧
    Settles .date value (.text t.dateText) t.midnight ∧
    (t.isLeap = false → Settles .timestampMs value (.int t.toMillis)
      (TimestampEncoding.timestampMs.floor t)) := by
  have kept := Instant.ofJson_kept read
  refine ⟨?_, ?_, fun moment => ?_⟩
  · exact .of_names read rfl (Instant.ofJson_dateTime kept)
      (congrArg Bind.text (Instant.dateTimeText_wholeSecond kept.clock))
  · exact .of_names read rfl (Instant.ofJson_date kept) (congrArg Bind.text t.dateText_midnight)
  · have within : t.nanos < nanosPerSecond :=
      not_le.mp fun leap => Bool.false_ne_true (moment.symm.trans (Instant.isLeap_iff.mpr leap))
    exact .of_names read rfl (Instant.ofJson_millis kept within)
      (congrArg Bind.int t.toMillis_floor)

theorem operand_settles_sample :
    Settles .datetime (.text "2017-01-01T00:59:60.75+01:00") (.text "2016-12-31 23:59:60")
      ⟨1483228799, 1000000000⟩ ∧
    Settles .date (.text " -0044-3-15  6:7:8") (.text "-0044-03-15") ⟨-63549360000, 0⟩ ∧
    Settles .timestampMs (.int (-1)) (.int (-1)) ⟨-1, 999000000⟩ := by
  have leap : Instant.ofJson (.text "2017-01-01T00:59:60.75+01:00")
      = .ok ⟨1483228799, 1750000000⟩ := by decide +kernel
  have early : Instant.ofJson (.text " -0044-3-15  6:7:8") = .ok ⟨-63549337972, 0⟩ := by
    decide +kernel
  have milli : Instant.ofJson (.int (-1)) = .ok ⟨-1, 999000000⟩ := by decide +kernel
  have text : (⟨1483228799, 1750000000⟩ : Instant).dateTimeText = "2016-12-31 23:59:60" := by
    decide +kernel
  have date : (⟨-63549337972, 0⟩ : Instant).dateText = "-0044-03-15" := by decide +kernel
  have begins : (⟨-63549337972, 0⟩ : Instant).midnight = ⟨-63549360000, 0⟩ := by decide +kernel
  obtain ⟨dateTimes, -, -⟩ := operand_settles leap
  obtain ⟨-, dates, -⟩ := operand_settles early
  obtain ⟨-, -, millis⟩ := operand_settles milli
  rw [text] at dateTimes
  rw [date, begins] at dates
  exact ⟨dateTimes, dates, millis rfl⟩

end Filter

end Analytics
