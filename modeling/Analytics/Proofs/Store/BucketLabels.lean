import Analytics.Proofs.Store.Clocks
import Analytics.Proofs.Time.Buckets

/-!
Labels of buckets. Times are in one bucket of days, months or years exactly if their labels are the
same.
-/

namespace Analytics.Clock

open Analytics.TimeUnit (truncate)

def labelTail : TimeUnit → WallTime → List Char
  | .month, t => (padded 2 t.date.month).toList ++ "-01".toList
  | .year, _ => "01-01".toList
  | _, t => (padded 2 t.date.month).toList ++ '-' :: (padded 2 t.date.day).toList

theorem toList_labelText {unit : TimeUnit} (long : unit.isWithinDay = false) (t : WallTime) :
    (labelText unit t).toList = (labelYear t.date.year).toList ++ '-' :: labelTail unit t := by
  cases unit with
  | minute => cases long
  | hour => cases long
  | _ => simp [labelText, labelTail, String.toList_append]

theorem labelYear_append_inj {year year' : Int} {as bs : List Char} :
    (labelYear year).toList ++ '-' :: as = (labelYear year').toList ++ '-' :: bs
      ↔ year = year' ∧ as = bs := by
  unfold labelYear
  by_cases negative : year < 0 <;> by_cases negative' : year' < 0 <;>
    simp only [negative, negative', if_true, if_false, String.toList_append]
  · rw [show "-".toList = ['-'] from rfl, List.cons_append, List.cons_append, List.cons_append,
      List.cons_append, List.cons.injEq, List.nil_append, List.nil_append,
      (run_padded _ _).append_inj (run_padded _ _) rfl, padded_inj, eq_self, true_and]
    exact and_congr_left' (by omega)
  · exact iff_of_false (cons_ne_padded rfl _ _ _ _) (by omega)
  · exact iff_of_false (fun same => cons_ne_padded rfl _ _ _ _ same.symm) (by omega)
  · rw [(run_padded _ _).append_inj (run_padded _ _) rfl, padded_inj]
    exact and_congr_left' (by omega)

theorem ofDate_inj {d e : Date} (onD : d.OnCalendar) (onE : e.OnCalendar) :
    WallTime.ofDate d = WallTime.ofDate e ↔ d = e := by
  rw [WallTime.ofDate, WallTime.ofDate, WallTime.mk.injEq]
  refine ⟨fun same => Date.toDay_injective onD onE (by omega), fun same => ?_⟩
  rw [same]
  exact ⟨rfl, rfl⟩

theorem truncate_congr {unit : TimeUnit} (long : unit.isWithinDay = false) {t u : WallTime}
    (same : t.date = u.date) : truncate unit t = truncate unit u := by
  cases unit with
  | minute => cases long
  | hour => cases long
  | day => rw [TimeUnit.truncate_day, TimeUnit.truncate_day, same]
  | month => rw [truncate, truncate, same]
  | year => rw [truncate, truncate, same]

theorem labelText_inj {unit : TimeUnit} (long : unit.isWithinDay = false) {t u : WallTime} :
    labelText unit t = labelText unit u ↔ truncate unit t = truncate unit u := by
  have onT := t.date_onCalendar
  have onU := u.date_onCalendar
  rw [← String.toList_inj, toList_labelText long, toList_labelText long, labelYear_append_inj]
  cases unit with
  | minute => cases long
  | hour => cases long
  | day =>
    have same : t.date = u.date ↔ t.date.year = u.date.year ∧ t.date.month = u.date.month ∧
        t.date.day = u.date.day := by
      cases t.date
      cases u.date
      rw [Date.mk.injEq]
    simp only [labelTail]
    rw [TimeUnit.truncate_day, TimeUnit.truncate_day, ofDate_inj onT onU, same,
      (run_padded _ _).append_inj (run_padded _ _) rfl, padded_inj, padded_inj]
  | month =>
    rw [truncate, truncate,
      ofDate_inj (Date.firstOfMonth_onCalendar onT) (Date.firstOfMonth_onCalendar onU),
      Date.mk.injEq, labelTail, labelTail, List.append_cancel_right_eq, padded_inj]
    simp
  | year =>
    rw [truncate, truncate,
      ofDate_inj (Date.firstOfYear_onCalendar _) (Date.firstOfYear_onCalendar _),
      Date.mk.injEq, labelTail, labelTail]
    simp

/-- Within the years of four digits the store labels buckets as the engine does. -/
theorem labelText_plain (unit : TimeUnit) {t : WallTime} (plain : t.date.HasPlainYear) :
    labelText unit t = unit.label t := by
  have year : labelYear t.date.year = yearText t.date.year := by
    rw [labelYear, if_neg (not_lt.mpr plain.1), Date.yearText_plain plain]
  cases unit <;> simp only [labelText, TimeUnit.label, Date.text, year]

theorem isValid_second (millis shift : Int) :
    isValid (millis + shift * 60000) = isValid ((millis / 1000 + shift * 60) * 1000) := by
  rw [Bool.eq_iff_iff, isValid_iff, isValid_iff]
  omega

theorem localTime?_date (shift : Int) (c : Cell) : localTime? .date shift c
    = (shown? c).bind fun s => valid? (s.date.toDay * 86400000) := by
  delta localTime?
  rfl

theorem localTime?_datetime (shift : Int) (c : Cell) :
    localTime? .datetime shift c = (moment? c).bind (later? shift) := by
  delta localTime?
  rfl

theorem localTime?_seconds (shift second : Int) : localTime? .timestamp shift (.int second)
    = (valid? (second * 1000)).bind (later? shift) := by
  delta localTime? epochTime?
  rfl

theorem localTime?_millis (shift millis : Int) : localTime? .timestampMs shift (.int millis)
    = (valid? (millis.tdiv 1000 * 1000)).bind (later? shift) := by
  delta localTime? epochTime? thousandth
  rfl

theorem later?_zero {millis : Int} (known : isValid millis = true) :
    later? 0 millis = some millis := by
  rw [later?, Int.zero_mul, Int.add_zero, valid?, if_pos known]

theorem label_date {day : Int} (unit : TimeUnit) (shift : Int)
    (known : date (.text (Date.ofDay day).text) ≠ .null) :
    label .date unit shift (.text (Date.ofDay day).text)
        = .text (labelText unit ⟨day * 86400, 0⟩)
      ∧ isValid (day * 86400000) = true := by
  have on := Date.ofDay_onCalendar day
  rw [date_text on, Date.toDay_ofDay] at known
  split at known
  case isFalse => exact absurd rfl known
  case isTrue within =>
    have midnight : day * 86400000 / 1000 = day * 86400 := by omega
    have shown := (Reads.of_date on within.1 (by rw [Date.toDay_ofDay]; exact within.2)).shown
    have own : (Shown.ofMillis ((Date.ofDay day).toDay * 86400000)).date.toDay = day := by
      rw [Shown.ofMillis, date_reading, Date.toDay_ofDay, Date.toDay_ofDay]
    rw [label, localTime?_date, shown, Option.bind_some, own, valid?, if_pos within.2, ofOption,
      reading, midnight]
    exact ⟨rfl, within.2⟩

theorem localTime?_shift {encoding : TimestampEncoding} (time : encoding ≠ .date) {c : Cell}
    {millis : Int} (read : localTime? encoding 0 c = some millis) (shift : Int) :
    localTime? encoding shift c = valid? (millis + shift * 60000) := by
  have later {found : Option Int} (shown : found.bind (later? 0) = some millis) :
      found.bind (later? shift) = valid? (millis + shift * 60000) := by
    obtain ⟨known, rfl, valid⟩ := Option.bind_eq_some_iff.mp shown
    obtain ⟨-, same⟩ := valid?_eq_some.mp valid
    obtain rfl : known = millis := by omega
    rfl
  cases encoding with
  | date => exact absurd rfl time
  | timestamp => exact later read
  | timestampMs => exact later read
  | datetime => exact later read

/-- The label of a time that the store reads is that of the shifted second, where it is known. -/
theorem label_shift {encoding : TimestampEncoding} (time : encoding ≠ .date) {c : Cell}
    {millis : Int} (read : localTime? encoding 0 c = some millis) (unit : TimeUnit) (shift : Int) :
    label encoding unit shift c
      = if isValid ((millis / 1000 + shift * 60) * 1000) then
          .text (labelText unit ⟨millis / 1000 + shift * 60, 0⟩)
        else .null := by
  have shown : reading (millis + shift * 60000) = ⟨millis / 1000 + shift * 60, 0⟩ := by
    rw [reading]
    congr 1
    omega
  rw [label, localTime?_shift time read, valid?, isValid_second]
  split
  case isTrue => rw [ofOption, shown]
  case isFalse => rfl

end Analytics.Clock
