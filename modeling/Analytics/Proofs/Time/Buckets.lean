import Analytics.Proofs.Time.Texts
import Analytics.Time.Unit

/-!
Buckets cut wall time without gaps. They are numbered along the calendar; each begins at a reading that
truncation keeps and ends where the next number begins. Their labels tell them apart, and within the years
of four digits stand in their order.
-/

namespace Analytics

namespace WallTime

theorem date_ofDate {d : Date} (on : d.OnCalendar) : (ofDate d).date = d := by
  rw [ofDate, date, day, Int.mul_ediv_cancel _ (by decide), Date.ofDay_toDay on]

theorem secondOfDay_ofDate (d : Date) : (ofDate d).secondOfDay = 0 := by
  simp only [ofDate, secondOfDay]
  omega

theorem toDay_date (t : WallTime) : t.date.toDay = t.day := Date.toDay_ofDay _

theorem lt_ofDate_iff {t : WallTime} {d : Date} :
    t.seconds < (ofDate d).seconds ↔ t.date.toDay < d.toDay := by
  simp only [toDay_date, ofDate, day]
  omega

theorem ofDate_le_iff {t : WallTime} {d : Date} :
    (ofDate d).seconds ≤ t.seconds ↔ d.toDay ≤ t.date.toDay := by
  rw [← not_lt, lt_ofDate_iff, not_lt]

end WallTime

namespace Date

variable {d e : Date}

theorem firstOfMonth_onCalendar (on : d.OnCalendar) : OnCalendar { d with day := 1 } :=
  ⟨on.firstMonth, on.lastMonth, le_refl 1, on.firstDay.trans on.lastDay⟩

theorem month_nonempty (leap : Bool) {month : Nat} (first : 1 ≤ month) (last : month ≤ 12) :
    1 ≤ Calendar.daysInMonth leap month := by
  have := Calendar.daysBeforeMonth_lt leap first last
  rw [Calendar.daysInMonth]
  omega

theorem firstOfYear_onCalendar (year : Int) : OnCalendar ⟨year, 1, 1⟩ :=
  ⟨le_refl 1, (by decide : 1 ≤ 12), le_refl 1, month_nonempty _ (le_refl 1) (by decide : 1 ≤ 12)⟩

theorem addMonths_first (first : d.day = 1) (months : Nat) :
    d.addMonths months
      = ⟨d.year + ((d.month - 1 + months) / 12 : Nat), (d.month - 1 + months) % 12 + 1, 1⟩ := by
  have some := month_nonempty
    (Calendar.isLeap (d.year + ((d.month - 1 + months) / 12 : Nat)))
    (Nat.le_add_left 1 ((d.month - 1 + months) % 12)) (by omega)
  rw [addMonths, first, Nat.min_eq_left some]

theorem addMonths_onCalendar (first : d.day = 1) (months : Nat) :
    (d.addMonths months).OnCalendar := by
  rw [addMonths_first first]
  have some : (d.month - 1 + months) % 12 + 1 ≤ 12 := by omega
  exact ⟨Nat.le_add_left 1 _, some, le_refl 1, month_nonempty _ (Nat.le_add_left 1 _) some⟩

end Date

namespace TimeUnit

variable {unit : TimeUnit} {t c d : WallTime}

/-- A reading at which a bucket begins. -/
def IsStart (unit : TimeUnit) (c : WallTime) : Prop := unit.truncate c = c

instance (unit : TimeUnit) (c : WallTime) : Decidable (unit.IsStart c) :=
  inferInstanceAs (Decidable (_ = _))

theorem IsStart.nanos (start : unit.IsStart c) : c.nanos = 0 := by
  rw [← start]
  cases unit <;> rfl

theorem IsStart.isPlain (start : unit.IsStart c) : c.IsPlain := by
  rw [WallTime.IsPlain, start.nanos]
  decide

theorem IsStart.eq_of_seconds (startC : unit.IsStart c) (startD : unit.IsStart d)
    (same : c.seconds = d.seconds) : c = d := by
  have nanos := startC.nanos.trans startD.nanos.symm
  cases c
  cases d
  exact WallTime.mk.injEq .. ▸ ⟨same, nanos⟩

theorem truncate_day (t : WallTime) : truncate .day t = .ofDate t.date := by
  rw [truncate, WallTime.ofDate, WallTime.toDay_date, WallTime.day]
  congr 1
  omega

def firstDate : TimeUnit → Date → Date
  | .month, d => { d with day := 1 }
  | .year, d => ⟨d.year, 1, 1⟩
  | _, d => d

theorem truncate_long (long : unit.isWithinDay = false) (t : WallTime) :
    unit.truncate t = .ofDate (unit.firstDate t.date) := by
  cases unit with
  | minute | hour => cases long
  | day => exact truncate_day t
  | month | year => rfl

theorem firstDate_onCalendar (unit : TimeUnit) {d : Date} (on : d.OnCalendar) :
    (unit.firstDate d).OnCalendar := by
  cases unit with
  | minute | hour | day => exact on
  | month => exact Date.firstOfMonth_onCalendar on
  | year => exact Date.firstOfYear_onCalendar d.year

theorem firstDate_idem (unit : TimeUnit) (d : Date) :
    unit.firstDate (unit.firstDate d) = unit.firstDate d := by cases unit <;> rfl

theorem truncate_start (unit : TimeUnit) (t : WallTime) : unit.IsStart (unit.truncate t) := by
  unfold IsStart
  by_cases long : unit.isWithinDay = false
  · rw [truncate_long long, truncate_long long,
      WallTime.date_ofDate (unit.firstDate_onCalendar t.date_onCalendar), firstDate_idem]
  · cases unit with
    | minute | hour =>
      simp only [truncate, WallTime.mk.injEq, and_true]
      omega
    | day | month | year => exact absurd rfl long

theorem IsStart.eq_ofDate (start : unit.IsStart c) (long : unit.isWithinDay = false) :
    c = .ofDate c.date ∧ unit.firstDate c.date = c.date := by
  have shape : .ofDate (unit.firstDate c.date) = c := (truncate_long long c).symm.trans start
  have first : unit.firstDate c.date = c.date := by
    rw [← WallTime.date_ofDate (unit.firstDate_onCalendar c.date_onCalendar), shape]
  exact ⟨by rw [first] at shape; exact shape.symm, first⟩

theorem IsStart.first_month (start : IsStart .month c) : c.date.day = 1 := by
  rw [← (start.eq_ofDate rfl).2]
  rfl

theorem IsStart.first_year (start : IsStart .year c) : c.date.month = 1 ∧ c.date.day = 1 := by
  rw [← (start.eq_ofDate rfl).2]
  exact ⟨rfl, rfl⟩

/-- The number of the bucket that holds a reading, by the calendar. -/
def ordinal (unit : TimeUnit) (t : WallTime) : Int :=
  match unit with
  | .minute => t.seconds / 60
  | .hour => t.seconds / 3600
  | .day => t.day
  | .month => t.date.year * 12 + (t.date.month : Int)
  | .year => t.date.year

/-- A reading some units later. -/
def plus (unit : TimeUnit) (count : Nat) (t : WallTime) : WallTime :=
  match unit with
  | .minute => addSeconds t (60 * count)
  | .hour => addSeconds t (3600 * count)
  | .day => addSeconds t (86400 * count)
  | .month => addMonths t count
  | .year => addMonths t (12 * count)

theorem plus_one (unit : TimeUnit) (t : WallTime) : unit.plus 1 t = unit.next t := by
  cases unit <;> rfl

theorem ordinal_truncate (unit : TimeUnit) (t : WallTime) :
    unit.ordinal (unit.truncate t) = unit.ordinal t := by
  cases unit with
  | minute | hour =>
    simp only [ordinal, truncate]
    omega
  | day =>
    simp only [ordinal, truncate, WallTime.day]
    omega
  | month | year =>
    rw [truncate_long rfl, ordinal, ordinal,
      WallTime.date_ofDate (firstDate_onCalendar _ t.date_onCalendar)]
    rfl

/-- A bucket begins by a reading exactly if its number is no larger than that of the reading's. -/
theorem IsStart.le_iff_ordinal (start : unit.IsStart c) :
    c.seconds ≤ t.seconds ↔ unit.ordinal c ≤ unit.ordinal t := by
  have onC := c.date_onCalendar
  have onT := t.date_onCalendar
  cases unit with
  | minute | hour | day =>
    have begins := congrArg WallTime.seconds start
    simp only [truncate, ordinal, WallTime.day] at begins ⊢
    omega
  | month =>
    have first := start.first_month
    rw [(start.eq_ofDate rfl).1, WallTime.ofDate_le_iff, ← not_lt, Date.toDay_lt_iff onT onC,
      ← (start.eq_ofDate rfl).1]
    have := onC.firstMonth
    have := onC.lastMonth
    have := onT.firstMonth
    have := onT.lastMonth
    have := onT.firstDay
    simp only [Date.Before, ordinal]
    omega
  | year =>
    obtain ⟨month, first⟩ := start.first_year
    rw [(start.eq_ofDate rfl).1, WallTime.ofDate_le_iff, ← not_lt, Date.toDay_lt_iff onT onC,
      ← (start.eq_ofDate rfl).1]
    have := onT.firstMonth
    have := onT.firstDay
    simp only [Date.Before, ordinal]
    omega

/-- A bucket begins by a reading exactly if it does so by its second. -/
theorem IsStart.le_iff (start : unit.IsStart c) : c ≤ t ↔ c.seconds ≤ t.seconds := by
  have order : c ≤ t ↔ c.seconds < t.seconds ∨ c.seconds = t.seconds ∧ c.nanos ≤ t.nanos := Iff.rfl
  have := start.nanos
  rw [order]
  omega

theorem IsStart.eq_of_ordinal (startC : unit.IsStart c) (startD : unit.IsStart d)
    (same : unit.ordinal c = unit.ordinal d) : c = d := by
  have from_ := startC.le_iff_ordinal.mpr same.le
  have upTo := startD.le_iff_ordinal.mpr same.ge
  exact startC.eq_of_seconds startD (le_antisymm from_ upTo)

theorem IsStart.addMonths_eq (start : unit.IsStart c) (long : unit.isWithinDay = false)
    (months : Nat) : addMonths c months = .ofDate (c.date.addMonths months) := by
  have midnight : c.secondOfDay = 0 := by
    rw [(start.eq_ofDate long).1, WallTime.secondOfDay_ofDate]
  rw [addMonths, midnight, start.nanos]
  exact congrArg (WallTime.mk · 0) (Int.add_zero _)

theorem IsStart.plus_start (start : unit.IsStart c) (count : Nat) :
    unit.IsStart (unit.plus count c) ∧ unit.ordinal (unit.plus count c) = unit.ordinal c + count := by
  cases unit with
  | minute | hour | day =>
    have begins := congrArg WallTime.seconds start
    have plain : ¬ nanosPerSecond ≤ 0 := by decide
    simp only [IsStart, truncate, plus, ordinal, WallTime.day, addSeconds, start.nanos, if_neg plain,
      WallTime.mk.injEq, and_true] at begins ⊢
    omega
  | month =>
    have on := Date.addMonths_onCalendar start.first_month count
    have := c.date_onCalendar.firstMonth
    rw [plus, start.addMonths_eq rfl, IsStart, truncate, ordinal, ordinal, WallTime.date_ofDate on,
      Date.addMonths_first start.first_month]
    exact ⟨rfl, by dsimp only; omega⟩
  | year =>
    obtain ⟨month, first⟩ := start.first_year
    have on := Date.addMonths_onCalendar first (12 * count)
    have whole : (1 - 1 + 12 * count) % 12 + 1 = 1 := by omega
    rw [plus, start.addMonths_eq rfl, IsStart, truncate, ordinal, ordinal, WallTime.date_ofDate on,
      Date.addMonths_first first, month, whole]
    exact ⟨rfl, by dsimp only; omega⟩

theorem IsStart.next_start (start : unit.IsStart c) :
    unit.IsStart (unit.next c) ∧ unit.ordinal (unit.next c) = unit.ordinal c + 1 := by
  rw [← unit.plus_one]
  exact start.plus_start 1

theorem IsStart.lt_next (start : unit.IsStart c) : c.seconds < (unit.next c).seconds := by
  obtain ⟨next, number⟩ := start.next_start
  rw [← not_le, next.le_iff_ordinal, number]
  omega

theorem IsStart.truncate_eq (start : unit.IsStart c) (from_ : c.seconds ≤ t.seconds)
    (before : t.seconds < (unit.next c).seconds) : unit.truncate t = c := by
  obtain ⟨next, number⟩ := start.next_start
  rw [start.le_iff_ordinal] at from_
  rw [← not_le, next.le_iff_ordinal, number] at before
  exact (unit.truncate_start t).eq_of_ordinal start (by rw [ordinal_truncate]; omega)

theorem truncate_le (unit : TimeUnit) (t : WallTime) : (unit.truncate t).seconds ≤ t.seconds :=
  (unit.truncate_start t).le_iff_ordinal.mpr (unit.ordinal_truncate t).le

theorem ordinal_mono (unit : TimeUnit) {t u : WallTime} (later : t.seconds ≤ u.seconds) :
    unit.ordinal t ≤ unit.ordinal u := by
  rw [← unit.ordinal_truncate t, ← (unit.truncate_start t).le_iff_ordinal]
  exact (unit.truncate_le t).trans later

theorem label_truncate (unit : TimeUnit) (t : WallTime) :
    unit.label (unit.truncate t) = unit.label t := by
  have within {length : Int} (parts : length = 60 ∨ length = 3600) :
      (⟨t.seconds - t.seconds % length, 0⟩ : WallTime).day = t.day ∧
        (⟨t.seconds - t.seconds % length, 0⟩ : WallTime).hour = t.hour ∧
        (length = 60 → (⟨t.seconds - t.seconds % length, 0⟩ : WallTime).minute = t.minute) := by
    simp only [WallTime.day, WallTime.hour, WallTime.minute, WallTime.secondOfDay]
    rcases parts with rfl | rfl <;> omega
  cases unit with
  | minute =>
    obtain ⟨day, hour, minute⟩ := within (.inl rfl)
    simp only [label, truncate, WallTime.date, day, hour, minute rfl]
  | hour =>
    obtain ⟨day, hour, -⟩ := within (.inr rfl)
    simp only [label, truncate, WallTime.date, day, hour]
  | day | month | year =>
    rw [truncate_long rfl, label, label,
      WallTime.date_ofDate (firstDate_onCalendar _ t.date_onCalendar)]
    rfl

/-- The label of a bucket is the text of its start: of the whole reading, for buckets shorter than a
day, and else of the date. -/
theorem IsStart.label_eq (start : unit.IsStart c) :
    unit.label c = if unit.isWithinDay then c.dateTimeText else c.date.text := by
  have whole : c.second = c.secondOfDay % 60 := by
    rw [WallTime.second, start.nanos, Nat.zero_div, Nat.add_zero]
  have zero : padded 2 0 = "00" := by decide
  cases unit with
  | minute =>
    have begins := congrArg WallTime.seconds start
    have none : c.secondOfDay % 60 = 0 := by
      simp only [truncate, WallTime.secondOfDay] at begins ⊢
      omega
    simp [label, isWithinDay, WallTime.dateTimeText, WallTime.clockText, whole, none, zero,
      String.append_assoc]
  | hour =>
    have begins := congrArg WallTime.seconds start
    have none : c.minute = 0 ∧ c.secondOfDay % 60 = 0 := by
      simp only [truncate, WallTime.secondOfDay, WallTime.minute] at begins ⊢
      omega
    simp [label, isWithinDay, WallTime.dateTimeText, WallTime.clockText, whole, none, zero,
      String.append_assoc]
  | day => rfl
  | month =>
    simp [label, isWithinDay, Date.text, start.first_month, String.append_assoc]
    decide
  | year =>
    obtain ⟨month, first⟩ := start.first_year
    simp [label, isWithinDay, Date.text, first, month, String.append_assoc]
    decide

theorem IsStart.label_inj (startC : unit.IsStart c) (startD : unit.IsStart d)
    (same : unit.label c = unit.label d) : c = d := by
  rw [startC.label_eq, startD.label_eq] at same
  by_cases long : unit.isWithinDay = false
  · rw [if_neg (by simp [long]), if_neg (by simp [long])] at same
    rw [(startC.eq_ofDate long).1, (startD.eq_ofDate long).1, Date.text_inj same]
  · rw [Bool.not_eq_false] at long
    rw [if_pos long, if_pos long] at same
    exact startC.eq_of_seconds startD
      (WallTime.dateTimeText_inj startC.isPlain startD.isPlain same)

theorem label_eq_iff (unit : TimeUnit) (t u : WallTime) :
    unit.label t = unit.label u ↔ unit.ordinal t = unit.ordinal u := by
  have startT := unit.truncate_start t
  have startU := unit.truncate_start u
  rw [← unit.label_truncate t, ← unit.label_truncate u, ← unit.ordinal_truncate t,
    ← unit.ordinal_truncate u]
  constructor
  · intro same
    rw [startT.label_inj startU same]
  · intro same
    rw [startT.eq_of_ordinal startU same]

theorem label_second (unit : TimeUnit) (t : WallTime) :
    unit.label ⟨t.seconds, 0⟩ = unit.label t := by
  cases unit <;> rfl

theorem isStart_iff_label (unit : TimeUnit) (t : WallTime) :
    unit.IsStart ⟨t.seconds + 1, 0⟩ ↔ unit.label ⟨t.seconds + 1, 0⟩ ≠ unit.label t := by
  rw [ne_eq, unit.label_eq_iff]
  constructor
  · intro start same
    have early : t.seconds + 1 ≤ t.seconds := start.le_iff_ordinal.mpr same.le
    omega
  · intro other
    have own := unit.truncate_start ⟨t.seconds + 1, 0⟩
    have upTo := unit.truncate_le ⟨t.seconds + 1, 0⟩
    have later := unit.ordinal_mono (t := t) (u := ⟨t.seconds + 1, 0⟩) (by dsimp only; omega)
    by_cases behind : (unit.truncate ⟨t.seconds + 1, 0⟩).seconds ≤ t.seconds
    · -- The bucket of the second has begun before it.
      have begun := own.le_iff_ordinal.mp behind
      rw [unit.ordinal_truncate] at begun
      exact absurd (begun.antisymm later) other
    · have same : (unit.truncate ⟨t.seconds + 1, 0⟩).seconds = t.seconds + 1 := by
        dsimp only at upTo
        omega
      exact (WallTime.mk.injEq ..).mpr ⟨same, own.nanos⟩

theorem IsStart.label_lt_iff (startC : unit.IsStart c) (startD : unit.IsStart d)
    (yearC : c.date.HasPlainYear) (yearD : d.date.HasPlainYear) :
    unit.label c < unit.label d ↔ c.seconds < d.seconds := by
  rw [startC.label_eq, startD.label_eq]
  by_cases long : unit.isWithinDay = false
  · rw [if_neg (by simp [long]), if_neg (by simp [long]),
      Date.text_lt_iff c.date_onCalendar d.date_onCalendar yearC yearD,
      ← Date.toDay_lt_iff c.date_onCalendar d.date_onCalendar, ← WallTime.lt_ofDate_iff,
      ← (startD.eq_ofDate long).1]
  · rw [Bool.not_eq_false] at long
    rw [if_pos long, if_pos long,
      WallTime.dateTimeText_lt_iff yearC yearD startC.isPlain startD.isPlain]

end TimeUnit

end Analytics
