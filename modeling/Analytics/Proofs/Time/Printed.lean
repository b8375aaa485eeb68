import Analytics.Proofs.Text.Blanks
import Analytics.Proofs.Time.Named
import Analytics.Proofs.Time.Buckets
import Mathlib.Data.List.Basic

/-!
Dates and clocks that are written are read back, whatever their years: as dates, as dates with a
clock, and as instants of a request. No text of one kind is read as another kind that is tried
before it.
-/

namespace Analytics

namespace TimeReading

open Text (trimLeft isBlank)

theorem trimLeft_cons {c : Char} (seen : isBlank c = false) (cs : List Char) :
    trimLeft (c :: cs) = c :: cs := List.dropWhile_cons_of_neg (by simp [seen])

theorem trimLeft_padded (width n : Nat) (rest : List Char) :
    trimLeft ((padded width n).toList ++ rest) = (padded width n).toList ++ rest := by
  obtain ⟨c, cs, shape, digit⟩ := exists_padded_cons width n
  rw [shape, List.cons_append, trimLeft_cons (isBlank_digit digit)]

/-- A run of digits is read as its number, if it is as long as can be or no digit follows. -/
theorem number_run {least most : Nat} {ds rest : List Char} (run : Digits.Run ds)
    (enough : least ≤ ds.length) (ends : ds.length = most ∨
      ds.length < most ∧ ∀ c ∈ rest.head?, Digits.isDigit c = false) :
    number least most (ds ++ rest) = some (Digits.toNat ds, rest) := by
  have taken : ((ds ++ rest).take most).takeWhile Digits.isDigit = ds := by
    rcases ends with full | ⟨short, stop⟩
    · rw [List.take_left' full, List.takeWhile_eq_self_iff.mpr run]
    · rw [List.take_append, List.take_of_length_le short.le, List.takeWhile_append_of_pos run]
      cases rest with
      | nil => simp
      | cons c rest =>
        obtain ⟨k, left⟩ := Nat.exists_eq_succ_of_ne_zero (Nat.sub_pos_of_lt short).ne'
        have noDigit := stop c rfl
        rw [left, List.take_succ_cons, List.takeWhile_cons_of_neg (by simp [noDigit]),
          List.append_nil]
  simp only [number, taken, if_neg (Nat.not_lt.mpr enough), List.drop_left]

theorem number_padded {n : Nat} (small : n < 10 ^ 2) {least : Nat} (enough : least ≤ 2)
    (rest : List Char) : number least 2 ((padded 2 n).toList ++ rest) = some (n, rest) := by
  have length := length_padded (by decide) small
  rw [number_run (run_padded 2 n) (enough.trans_eq length.symm) (.inl length), toNat_padded]

theorem field_padded {n : Nat} (small : n < 10 ^ 2) (rest : List Char) :
    field ((padded 2 n).toList ++ rest) = some (n, rest) := by
  rw [field, trimLeft_padded, number_padded small (by decide)]

theorem bind_read {α β : Type} {first : Option α} {a : α} (read : first = some a)
    (next : α → Option β) : first >>= next = next a := by
  rw [read]
  rfl

@[simp] theorem expect_cons (c : Char) (rest : List Char) : expect c (c :: rest) = some rest :=
  if_pos rfl

theorem number_signed (n : Nat) (rest : List Char) :
    number 1 ((padded 4 n).toList ++ '-' :: rest).length ((padded 4 n).toList ++ '-' :: rest)
      = some (n, '-' :: rest) := by
  obtain ⟨c, cs, shape, -⟩ := exists_padded_cons 4 n
  rw [number_run (run_padded 4 n) (by simp [shape]) (.inr ⟨by simp, by simp; decide⟩),
    toNat_padded]

theorem year_text (y : Int) (rest : List Char) :
    year ((yearText y).toList ++ '-' :: rest) = some (y, '-' :: rest) := by
  by_cases negative : y < 0
  · have size : -(y.natAbs : Int) = y := by omega
    rw [Date.toList_yearText_negative negative, List.cons_append, year, trimLeft_cons (by decide)]
    simp only [number_signed, Option.map_some, size]
  by_cases large : 9999 < y
  · have size : (y.natAbs : Int) = y := by omega
    rw [Date.toList_yearText_large large, List.cons_append, year, trimLeft_cons (by decide)]
    simp only [number_signed, Option.map_some, size]
  · have size : (y.natAbs : Int) = y := by omega
    have length : (padded 4 y.natAbs).toList.length = 4 := length_padded (by decide) (by omega)
    obtain ⟨c, cs, shape, digit⟩ := exists_padded_cons 4 y.natAbs
    have read : number 1 4 ((padded 4 y.natAbs).toList ++ '-' :: rest)
        = some (y.natAbs, '-' :: rest) := by
      rw [number_run (run_padded 4 y.natAbs) (by omega) (.inl length), toNat_padded]
    rw [yearText, if_pos ⟨by omega, by omega⟩, year, trimLeft_padded]
    split
    · rename_i same
      exact absurd same.symm (cons_ne_padded (by decide) _ _ _ _)
    · rename_i same
      exact absurd same.symm (cons_ne_padded (by decide) _ _ _ _)
    · simp only [read, Option.map_some, size]

theorem date_text {d : Date} (on : d.OnCalendar) (rest : List Char) :
    date (d.text.toList ++ rest) = some (d, rest) := by
  simp only [Date.toList_text, List.append_assoc, List.cons_append]
  rw [date, year_text]
  simp only [Option.bind_eq_bind, Option.bind_some, expect_cons, field_padded on.month_lt,
    field_padded on.day_lt, Option.pure_def]

end TimeReading

namespace Date

theorem isValid_iff {d : Date} : d.isValid = true
    ↔ d.OnCalendar ∧ Calendar.firstYear ≤ d.year ∧ d.year ≤ Calendar.lastYear := by
  simp only [isValid, Bool.and_eq_true, decide_eq_true_eq]
  constructor
  · rintro ⟨⟨⟨⟨⟨first, last⟩, low⟩, high⟩, one⟩, days⟩
    exact ⟨⟨low, high, one, days⟩, first, last⟩
  · rintro ⟨on, first, last⟩
    exact ⟨⟨⟨⟨⟨first, last⟩, on.firstMonth⟩, on.lastMonth⟩, on.firstDay⟩, on.lastDay⟩

theorem isValid_ofDay {day : Int} :
    (ofDay day).isValid = true ↔ Calendar.firstDay ≤ day ∧ day ≤ Calendar.lastDay := by
  have first : (ofDay (Calendar.firstDay - 1)).year < Calendar.firstYear ∧
      (ofDay Calendar.firstDay).year = Calendar.firstYear := by decide +kernel
  have last : (ofDay Calendar.lastDay).year = Calendar.lastYear ∧
      Calendar.lastYear < (ofDay (Calendar.lastDay + 1)).year := by decide +kernel
  rw [isValid_iff, and_iff_right (ofDay_onCalendar day)]
  constructor
  · rintro ⟨early, late⟩
    constructor
    · by_contra before
      have := year_le (Int.le_sub_one_of_lt (not_le.mp before))
      omega
    · by_contra behind
      have := year_le (Int.add_one_le_of_lt (not_le.mp behind))
      omega
  · rintro ⟨from_, upTo⟩
    exact ⟨first.2.ge.trans (year_le from_), (year_le upTo).trans last.1.le⟩

theorem toDay_bounds {d : Date} (valid : d.isValid = true) :
    Calendar.firstDay ≤ d.toDay ∧ d.toDay ≤ Calendar.lastDay := by
  rw [← isValid_ofDay, ofDay_toDay (isValid_iff.mp valid).1]
  exact valid

end Date

namespace Instant

/-- An instant without the parts of its second; a leap second stays one. -/
def wholeSecond (t : Instant) : Instant := ⟨t.seconds, if t.isLeap then nanosPerSecond else 0⟩

/-- The midnight in universal time that an instant's date begins with. -/
def midnight (t : Instant) : Instant := (WallTime.ofDate t.utc.date).toInstant 0

/-- An instant of a clock within the years that are kept, as every instant that a request names. -/
structure Kept (t : Instant) : Prop where
  clock : t.OnClock
  years : inRange t.seconds = true

variable {t : Instant}

theorem utc_eq (t : Instant) : t.utc = ⟨t.seconds, t.nanos⟩ := by
  rw [utc, toWall, Int.add_zero]

theorem inRange_iff {seconds : Int} : inRange seconds = true
    ↔ Calendar.firstDay * 86400 ≤ seconds ∧ seconds < (Calendar.lastDay + 1) * 86400 := by
  rw [inRange, Bool.and_eq_true, decide_eq_true_eq, decide_eq_true_eq]

theorem inRange_iff_date : inRange t.seconds = true ↔ t.utc.date.isValid = true := by
  rw [WallTime.date, Date.isValid_ofDay, WallTime.day, utc_eq, inRange_iff]
  dsimp only
  omega

theorem isLeap_iff : t.isLeap = true ↔ nanosPerSecond ≤ t.nanos := decide_eq_true_iff

theorem OnClock.second_eq (clock : t.OnClock) : t.utc.second ≤ 60 ∧
    min t.utc.second 59 = t.utc.secondOfDay % 60 ∧ (t.utc.second = 60 ↔ t.isLeap = true) := by
  rw [utc_eq, isLeap_iff]
  simp only [OnClock, nanosPerSecond, WallTime.second, WallTime.secondOfDay] at clock ⊢
  omega

theorem Kept.wallTime_parts (kept : t.Kept) (nanos : Nat) :
    TimeReading.wallTime? t.utc.date t.utc.hour t.utc.minute t.utc.second nanos
      = some ⟨t.seconds, nanos + if t.isLeap then nanosPerSecond else 0⟩ := by
  have valid := inRange_iff_date.mp kept.years
  obtain ⟨most, second, leap⟩ := kept.clock.second_eq
  have whole : t.utc.date.toDay * 86400
      + ((t.utc.hour * 3600 + t.utc.minute * 60 + min t.utc.second 59 : Nat) : Int)
      = t.seconds := by
    have parts : t.utc.hour * 3600 + t.utc.minute * 60 + t.utc.secondOfDay % 60
        = t.utc.secondOfDay := by
      simp only [WallTime.hour, WallTime.minute]
      omega
    rw [second, parts, WallTime.toDay_date, ← t.utc.seconds_eq, utc_eq]
  simp only [TimeReading.wallTime?, valid, decide_eq_true t.utc.hour_lt,
    decide_eq_true t.utc.minute_lt, decide_eq_true most, Bool.and_self, if_true, whole, leap]

theorem OnClock.second_lt (clock : t.OnClock) : t.utc.second < 10 ^ 2 :=
  lt_of_le_of_lt clock.second_eq.1 (by decide)

theorem hour_lt (t : Instant) : t.utc.hour < 10 ^ 2 := t.utc.hour_lt.trans (by decide)

theorem minute_lt (t : Instant) : t.utc.minute < 10 ^ 2 := t.utc.minute_lt.trans (by decide)

end Instant

namespace TimeReading

open Text (trimLeft isBlank)

variable {t : Instant} {d : Date}

theorem field_padded_last {n : Nat} (small : n < 10 ^ 2) :
    field (padded 2 n).toList = some (n, []) := by
  have read := field_padded small []
  rwa [List.append_nil] at read

theorem trimLeft_space (cs : List Char) : trimLeft (' ' :: cs) = trimLeft cs :=
  List.dropWhile_cons_of_pos rfl

theorem dateTime_text (kept : t.Kept) :
    dateTime? t.dateTimeText.toList = some t.wholeSecond := by
  rw [Instant.dateTimeText, WallTime.toList_dateTimeText, WallTime.toList_clockText, dateTime?,
    date_text t.utc.date_onCalendar]
  simp only [Option.bind_eq_bind, Option.bind_some, trimLeft_space, trimLeft_padded,
    field_padded t.hour_lt, field_padded t.minute_lt, field_padded_last kept.clock.second_lt,
    expect_cons, kept.wallTime_parts, List.isEmpty_nil, if_true, Option.pure_def, Nat.zero_add]
  rw [WallTime.toInstant, Int.sub_zero, Instant.wholeSecond]

theorem date_text_midnight (valid : d.isValid = true) :
    date? d.text.toList = some ((WallTime.ofDate d).toInstant 0) := by
  have read := date_text (Date.isValid_iff.mp valid).1 []
  rw [List.append_nil] at read
  simp only [date?, read, Option.bind_eq_bind, Option.bind_some, List.isEmpty_nil, valid,
    Bool.and_self, if_true]

theorem dateTime_date (on : d.OnCalendar) : dateTime? d.text.toList = none := by
  have read := date_text on []
  have clock : field (trimLeft []) = none := rfl
  rw [List.append_nil] at read
  simp only [dateTime?, read, clock, Option.bind_eq_bind, Option.bind_some, Option.bind_none]

theorem number_sign {sign : Char} (noDigit : Digits.isDigit sign = false) (cs : List Char) :
    number 4 4 (sign :: cs) = none := by
  have taken : ((sign :: cs).take 4).takeWhile Digits.isDigit = [] :=
    List.takeWhile_cons_of_neg (by simp [noDigit])
  simp only [number, taken, List.length_nil, Nat.zero_lt_succ, if_true]

/-- A text that goes on behind a date without an offset is no instant of the strict form. -/
theorem strict_text (on : d.OnCalendar) {rest : List Char} (bare : rest = [] ∨
      ∃ t : Instant, t.OnClock ∧ rest = ' ' :: t.utc.clockText.toList) :
    strict? (d.text.toList ++ rest) = none := by
  by_cases plain : d.HasPlainYear
  · have years := length_padded (by decide) plain.natAbs_lt
    simp only [Date.toList_text, List.append_assoc, List.cons_append, Date.yearText_plain plain]
    refine (bind_read (number_run (run_padded 4 _) years.ge (.inl years)) _).trans ?_
    refine (bind_read (expect_cons '-' _) _).trans ?_
    refine (bind_read (number_padded on.month_lt (le_refl 2) _) _).trans ?_
    refine (bind_read (expect_cons '-' _) _).trans ?_
    refine (bind_read (number_padded on.day_lt (le_refl 2) _) _).trans ?_
    rcases bare with rfl | ⟨t, clock, rfl⟩
    · rfl
    · have last : number 2 2 (padded 2 t.utc.second).toList = some (t.utc.second, []) := by
        rw [← List.append_nil (padded 2 t.utc.second).toList,
          number_padded clock.second_lt (le_refl 2)]
      rw [WallTime.toList_clockText]
      refine (bind_read (rfl : separatorMark (' ' :: _) = some _) _).trans ?_
      refine (bind_read (number_padded t.hour_lt (le_refl 2) _) _).trans ?_
      refine (bind_read (expect_cons ':' _) _).trans ?_
      refine (bind_read (number_padded t.minute_lt (le_refl 2) _) _).trans ?_
      refine (bind_read (expect_cons ':' _) _).trans ?_
      exact bind_read last _
  · obtain ⟨sign, noDigit, cs, shape⟩ : ∃ sign, Digits.isDigit sign = false ∧
        ∃ cs, (yearText d.year).toList = sign :: cs := by
      rcases lt_or_ge d.year 0 with negative | positive
      · exact ⟨'-', rfl, _, Date.toList_yearText_negative negative⟩
      · have large : 9999 < d.year := not_le.mp fun upTo => plain ⟨positive, upTo⟩
        exact ⟨'+', rfl, _, Date.toList_yearText_large large⟩
    rw [Date.toList_text, shape, List.cons_append, List.cons_append, strict?, number_sign noDigit]
    rfl

theorem instantText_dateTime (kept : t.Kept) :
    instantText? t.dateTimeText.toList = some t.wholeSecond := by
  have strict : strict? t.dateTimeText.toList = none := by
    rw [Instant.dateTimeText, WallTime.toList_dateTimeText]
    exact strict_text t.utc.date_onCalendar (.inr ⟨t, kept.clock, rfl⟩)
  simp only [instantText?, strict, dateTime_text kept, Option.orElse_eq_or, Option.none_or,
    Option.some_or]

theorem instantText_date (kept : t.Kept) :
    instantText? t.dateText.toList = some t.midnight := by
  have on := t.utc.date_onCalendar
  have strict := strict_text on (.inl rfl)
  rw [List.append_nil] at strict
  simp only [instantText?, Instant.dateText, strict, dateTime_date on,
    date_text_midnight (Instant.inRange_iff_date.mp kept.years), Option.orElse_eq_or,
    Option.none_or, Instant.midnight]

theorem expect_seen {c : Char} (seen : isBlank c = false) (rest : List Char) :
    expect c (trimLeft (c :: rest)) = some rest := by
  rw [trimLeft_cons seen, expect_cons]

theorem fraction_padded {width n : Nat} (some_ : 0 < width) (few : width ≤ 9)
    (fits : n < 10 ^ width) : fraction ('.' :: ((padded width n).toList ++ ['Z']))
      = some (n * tenPow (9 - width), ['Z']) := by
  have length := length_padded some_ fits
  have ends : width = 9 ∨ width < 9 ∧ ∀ c ∈ ['Z'].head?, Digits.isDigit c = false :=
    few.eq_or_lt.imp_right fun less => ⟨less, by simp; decide⟩
  have read : number 1 9 ((padded width n).toList ++ ['Z']) = some (n, ['Z']) := by
    rw [number_run (run_padded width n) (by omega) (by rwa [length]), toNat_padded]
  have places : ((padded width n).toList ++ ['Z']).length - ['Z'].length = width := by
    rw [List.length_append, length, Nat.add_sub_cancel]
  simp only [fraction, read, places]
  rfl

theorem point_padded (width n : Nat) :
    ("." ++ padded width n).toList ++ ['Z'] = '.' :: ((padded width n).toList ++ ['Z']) := by
  rw [String.toList_append]
  rfl

/-- The digits of a fraction, as few as they may be, are read as its nanoseconds. -/
theorem fraction_text (nanos : Nat) : fraction ((Instant.fractionText nanos).toList ++ ['Z'])
    = some (nanos % nanosPerSecond, ['Z']) := by
  have less : nanos % nanosPerSecond < 10 ^ 9 := Nat.mod_lt _ (by decide)
  unfold Instant.fractionText
  generalize nanos % nanosPerSecond = n at less
  dsimp only
  split_ifs with none millis micros
  · rw [none]
    rfl
  · have fits : n / 1000000 < 10 ^ 3 := by omega
    have whole : n / 1000000 * tenPow (9 - 3) = n :=
      Nat.div_mul_cancel (Nat.dvd_of_mod_eq_zero millis)
    rw [point_padded, fraction_padded (by decide) (by decide) fits, whole]
  · have fits : n / 1000 < 10 ^ 6 := by omega
    have whole : n / 1000 * tenPow (9 - 6) = n :=
      Nat.div_mul_cancel (Nat.dvd_of_mod_eq_zero micros)
    rw [point_padded, fraction_padded (by decide) (by decide) fits, whole]
  · have whole : n * tenPow (9 - 9) = n := Nat.mul_one n
    rw [point_padded, fraction_padded (by decide) (by decide) less, whole]

theorem relaxed_rfc3339 (kept : t.Kept) : relaxed? t.rfc3339.toList = some t := by
  have on := t.utc.date_onCalendar
  have parts : t.rfc3339.toList = (yearText t.utc.date.year).toList ++ '-' ::
      ((padded 2 t.utc.date.month).toList ++ '-' :: ((padded 2 t.utc.date.day).toList ++ 'T' ::
      ((padded 2 t.utc.hour).toList ++ ':' :: ((padded 2 t.utc.minute).toList ++ ':' ::
      ((padded 2 t.utc.second).toList ++ ((Instant.fractionText t.nanos).toList ++ ['Z'])))))) := by
    simp only [Instant.rfc3339, Instant.dateText, String.toList_append, Date.toList_text,
      WallTime.toList_clockText, List.append_assoc, List.cons_append]
    rfl
  have whole : t.nanos % nanosPerSecond + (if t.isLeap then nanosPerSecond else 0) = t.nanos := by
    have clock := kept.clock
    simp only [Instant.OnClock, Instant.isLeap_iff, nanosPerSecond] at clock ⊢
    split_ifs <;> omega
  have named : instant? ⟨t.seconds, t.nanos⟩ 0 = some t := by
    simp only [instant?, WallTime.toInstant, Int.sub_zero, kept.years, if_true]
  rw [parts]
  refine (bind_read (year_text _ _) _).trans ?_
  refine (bind_read (expect_seen rfl _) _).trans ?_
  refine (bind_read (field_padded on.month_lt _) _).trans ?_
  refine (bind_read (expect_seen rfl _) _).trans ?_
  refine (bind_read (field_padded on.day_lt _) _).trans ?_
  refine (bind_read (rfl : separatorMark ('T' :: _) = some _) _).trans ?_
  refine (bind_read (field_padded t.hour_lt _) _).trans ?_
  refine (bind_read (expect_seen rfl _) _).trans ?_
  refine (bind_read (field_padded t.minute_lt _) _).trans ?_
  refine (bind_read (expect_seen rfl _) _).trans ?_
  refine (bind_read (field_padded kept.clock.second_lt _) _).trans ?_
  refine (bind_read (fraction_text t.nanos) _).trans ?_
  refine (bind_read (rfl : offset _ (trimLeft ['Z']) = some (0, [])) _).trans ?_
  refine (bind_read (kept.wallTime_parts _) _).trans ?_
  rw [whole]
  exact named

theorem wallTime_years {hour minute second nanos : Nat} {w : WallTime}
    (shown : wallTime? d hour minute second nanos = some w) : Instant.inRange w.seconds = true := by
  rw [wallTime?, Option.ite_none_right_eq_some] at shown
  obtain ⟨within, made⟩ := shown
  cases made
  simp only [Bool.and_eq_true, decide_eq_true_eq] at within
  have bounds := Date.toDay_bounds within.1.1.1
  rw [Instant.inRange_iff]
  dsimp only
  omega

theorem instant_years {w : WallTime} {o : Int} (named : instant? w o = some t) :
    Instant.inRange t.seconds = true := by
  rw [instant?, Option.ite_none_right_eq_some] at named
  obtain ⟨within, made⟩ := named
  cases made
  exact within

theorem strict_kept {cs : List Char} (read : strict? cs = some t) : t.Kept := by
  refine ⟨strict_onClock read, ?_⟩
  unfold strict? at read
  iterate 13 obtain ⟨_, -, read⟩ := Option.bind_eq_some_iff.mp read
  dsimp only at read
  rw [Option.ite_none_right_eq_some] at read
  obtain ⟨_, -, named⟩ := Option.bind_eq_some_iff.mp read.2
  exact instant_years named

theorem dateTime_kept {cs : List Char} (read : dateTime? cs = some t) : t.Kept := by
  refine ⟨dateTime_onClock read, ?_⟩
  unfold dateTime? at read
  iterate 6 obtain ⟨_, -, read⟩ := Option.bind_eq_some_iff.mp read
  dsimp only at read
  rw [Option.ite_none_right_eq_some] at read
  obtain ⟨w, shown, made⟩ := Option.bind_eq_some_iff.mp read.2
  have years := wallTime_years shown
  cases made
  rwa [WallTime.toInstant, Int.sub_zero]

theorem date_kept {cs : List Char} (read : date? cs = some t) : t.Kept := by
  refine ⟨date_onClock read, ?_⟩
  obtain ⟨⟨d, rest⟩, -, read⟩ := Option.bind_eq_some_iff.mp read
  rw [Option.ite_none_right_eq_some, Bool.and_eq_true] at read
  obtain ⟨⟨-, valid⟩, made⟩ := read
  cases made
  have bounds := Date.toDay_bounds valid
  have begins : ((WallTime.ofDate d).toInstant 0).seconds = d.toDay * 86400 := Int.sub_zero _
  rw [begins, Instant.inRange_iff]
  omega

theorem relaxed_kept {cs : List Char} (read : relaxed? cs = some t) : t.Kept := by
  unfold relaxed? at read
  iterate 11 obtain ⟨_, -, read⟩ := Option.bind_eq_some_iff.mp read
  obtain ⟨_, fraction, read⟩ := Option.bind_eq_some_iff.mp read
  obtain ⟨_, offset, read⟩ := Option.bind_eq_some_iff.mp read
  dsimp only at read
  rw [Option.ite_none_right_eq_some] at read
  obtain ⟨w, shown, named⟩ := Option.bind_eq_some_iff.mp read.2
  refine ⟨?_, instant_years named⟩
  rw [instant?, Option.ite_none_right_eq_some] at named
  rw [← Option.some.inj named.2]
  exact wallTime_onClock (fraction_lt fraction) shown (offset_minutes offset)

end TimeReading

namespace Instant

variable {t : Instant}

theorem ofMillis_kept {millis : Int} (read : ofMillis? millis = some t) : t.Kept := by
  refine ⟨ofMillis_onClock read, ?_⟩
  rw [ofMillis?, Option.ite_none_right_eq_some] at read
  obtain ⟨within, made⟩ := read
  cases made
  exact within

theorem ofJson_kept {value : Json} (read : ofJson value = .ok t) : t.Kept := by
  unfold ofJson at read
  split at read
  · split at read
    · rename_i named
      cases read
      obtain ⟨millis, -, own⟩ := Option.bind_eq_some_iff.mp named
      exact ofMillis_kept own
    · cases read
  · cases read
  · unfold ofText at read
    dsimp only at read
    split at read
    · rename_i named
      cases read
      simp only [TimeReading.instantText?, Option.orElse_eq_or, Option.or_eq_some_iff] at named
      obtain strict | ⟨-, dateTime | ⟨-, date⟩⟩ := named
      · exact TimeReading.strict_kept strict
      · exact TimeReading.dateTime_kept dateTime
      · exact TimeReading.date_kept date
    · cases read
  · cases read

theorem trimChars_text {d : Date} {rest : List Char} (ends : rest = [] ∨ ∃ front n,
      rest = front ++ (padded 2 n).toList) :
    Text.trimChars (d.text.toList ++ rest) = d.text.toList ++ rest := by
  have last (front : List Char) (n : Nat) :
      ∀ c ∈ (front ++ (padded 2 n).toList).getLast?, Text.isBlank c = false := by
    intro c found
    obtain ⟨first, cs, shape, -⟩ := exists_padded_cons 2 n
    have own : (padded 2 n).toList.getLast? = some c := by
      rw [shape] at found ⊢
      rwa [List.getLast?_append_cons] at found
    exact isBlank_digit (run_padded 2 n c (List.mem_of_getLast? own))
  refine Text.trimChars_tight (fun c found => ?_) ?_
  · obtain ⟨first, cs, shape, digit⟩ := exists_padded_cons 4 d.year.natAbs
    rw [Date.toList_text] at found
    rcases Date.yearText_cases d.year with ⟨-, own⟩ | ⟨-, own⟩ | ⟨-, own⟩ <;> rw [own] at found
    · rw [shape] at found
      cases found
      exact isBlank_digit digit
    · cases found
      rfl
    · cases found
      rfl
  · rcases ends with rfl | ⟨front, n, rfl⟩
    · rw [List.append_nil, Date.toList_text]
      simpa only [List.append_assoc, List.cons_append, List.nil_append] using
        last ((yearText d.year).toList ++ '-' :: ((padded 2 d.month).toList ++ ['-'])) d.day
    · rw [← List.append_assoc]
      exact last _ n

theorem ofJson_of_tight {s : String} (tight : Text.trimChars s.toList = s.toList)
    (read : TimeReading.instantText? s.toList = some t) : ofJson (.text s) = .ok t := by
  have text : ofJson (.text s) = ofText s := rfl
  rw [text, ofText]
  simp only [tight, read]

/-- What is written for a date with a clock names the instant without the parts of its second. -/
theorem ofJson_dateTime (kept : t.Kept) : ofJson (.text t.dateTimeText) = .ok t.wholeSecond := by
  refine ofJson_of_tight ?_ (TimeReading.instantText_dateTime kept)
  rw [dateTimeText, WallTime.toList_dateTimeText]
  refine trimChars_text (.inr ⟨' ' :: ((padded 2 t.utc.hour).toList ++ ':' ::
    ((padded 2 t.utc.minute).toList ++ [':'])), t.utc.second, ?_⟩)
  rw [WallTime.toList_clockText]
  simp only [List.cons_append, List.append_assoc, List.nil_append]

theorem ofJson_date (kept : t.Kept) : ofJson (.text t.dateText) = .ok t.midnight := by
  refine ofJson_of_tight ?_ (TimeReading.instantText_date kept)
  have tight := trimChars_text (d := t.utc.date) (.inl rfl)
  rwa [List.append_nil] at tight

theorem ofJson_millis (kept : t.Kept) (within : t.nanos < nanosPerSecond) :
    ofJson (.int t.toMillis) = .ok ⟨t.seconds, t.nanos - t.nanos % 1000000⟩ := by
  have years := inRange_iff.mp kept.years
  have bounds : Calendar.firstDay = -96465292 ∧ Calendar.lastDay = 95026236 := by decide
  rw [bounds.1, bounds.2] at years
  have parts : t.toMillis / 1000 = t.seconds ∧
      (t.toMillis % 1000).toNat * 1000000 = t.nanos - t.nanos % 1000000 := by
    simp only [toMillis, nanosPerSecond] at within ⊢
    omega
  have word : (Json.int t.toMillis).toWord? = some t.toMillis := by
    have fits : leastWord ≤ t.toMillis ∧ t.toMillis ≤ greatestWord := by
      simp only [toMillis, nanosPerSecond, leastWord, greatestWord] at within ⊢
      omega
    rw [Json.toWord?, fitsWord, decide_eq_true fits.1, decide_eq_true fits.2]
    rfl
  have named : ofMillis? t.toMillis = some ⟨t.seconds, t.nanos - t.nanos % 1000000⟩ := by
    simp only [ofMillis?, parts, kept.years, if_true]
  simp only [ofJson, word, Option.bind_some, named]

end Instant

end Analytics
