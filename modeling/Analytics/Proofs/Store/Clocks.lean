import Analytics.Proofs.Time.Texts
import Analytics.Store.Clock

/-!
Dates and clocks that are stored as text. The store reads back the texts of dates and of dates with
a clock, within the years it knows, and shows them as they are; a date outside of them is no time.
-/

namespace Analytics.Clock

/-- A padded number at the start of a text is read back, with the text behind it. -/
theorem digits?_padded {width least most n : Nat} (wide : 0 < width) (fits : n < 10 ^ width)
    (low : least ≤ n) (high : n ≤ most) (rest : List Char) :
    digits? width least most ((padded width n).toList ++ rest) = some (n, rest) := by
  have length := length_padded wide fits
  have run : (padded width n).toList.all Digits.isDigit = true :=
    List.all_eq_true.mpr (run_padded width n)
  rw [digits?, List.take_left' length, List.drop_left' length]
  simp [length, run, low, high]

theorem digits?_none {width least most : Nat} {c : Char} (wide : 0 < width)
    (noDigit : Digits.isDigit c = false) (rest : List Char) :
    digits? width least most (c :: rest) = none := by
  obtain ⟨less, rfl⟩ := Nat.exists_eq_succ_of_ne_zero wide.ne'
  simp [digits?, noDigit]

theorem isSpace_digit {c : Char} (digit : Digits.isDigit c = true) : Numeral.isSpace c = false := by
  have bounds := Digits.bounds digit
  have noBlank : c ≠ ' ' := by
    rintro rfl
    cases digit
  simp only [Numeral.isSpace, noBlank, decide_false, Bool.false_or, Bool.and_eq_false_iff,
    decide_eq_false_iff_not]
  omega

@[simp] theorem expect_cons (c : Char) (rest : List Char) : expect c (c :: rest) = some rest :=
  if_pos rfl

/-- Year, month and day of a date without sign, and the text behind it. -/
def fields? (cs : List Char) : Option (Nat × Nat × Nat × List Char) := do
  let (year, cs) ← digits? 4 0 9999 cs
  let cs ← expect '-' cs
  let (month, cs) ← digits? 2 1 12 cs
  let cs ← expect '-' cs
  let (day, cs) ← digits? 2 1 31 cs
  pure (year, month, day, cs)

theorem date?_negative (cs : List Char) : date? ('-' :: cs) = (fields? cs).bind fun f =>
    if -4713 ≤ -(f.1 : Int) then some (⟨-f.1, f.2.1, f.2.2.1⟩, f.2.2.2) else none := by
  delta date?
  simp only [fields?, Option.bind_eq_bind, Option.bind_assoc, Option.pure_def, Option.bind_some,
    if_true]

theorem date?_unsigned {cs : List Char} (unsigned : cs.head? ≠ some '-') :
    date? cs = (fields? cs).map fun f => (⟨f.1, f.2.1, f.2.2.1⟩, f.2.2.2) := by
  have late (year : Nat) : -4713 ≤ (year : Int) := by omega
  cases cs with
  | nil => rfl
  | cons c cs =>
    have other : c ≠ '-' := fun same => unsigned (congrArg some same)
    delta date?
    simp only [fields?, Option.bind_eq_bind, Option.map_eq_bind, Option.bind_assoc,
      Option.pure_def, Option.bind_some]
    split
    case h_1 => simp_all
    case h_2 => simp [late]

theorem fields?_padded {year month day : Nat} (years : year < 10 ^ 4) (firstMonth : 1 ≤ month)
    (lastMonth : month ≤ 12) (firstDay : 1 ≤ day) (lastDay : day ≤ 31) (rest : List Char) :
    fields? ((padded 4 year).toList ++ '-' :: ((padded 2 month).toList ++ '-' ::
      ((padded 2 day).toList ++ rest))) = some (year, month, day, rest) := by
  rw [fields?, digits?_padded (by decide) years (Nat.zero_le _) (by omega)]
  simp only [Option.bind_eq_bind, Option.bind_some, expect_cons]
  rw [digits?_padded (by decide) (by omega) firstMonth lastMonth]
  simp only [Option.bind_some, expect_cons]
  rw [digits?_padded (by decide) (by omega) firstDay lastDay]
  rfl

/-- Years that the store reads; the last ones before them are half inside. -/
def KnownYear (year : Int) : Prop := -4713 ≤ year ∧ year ≤ 9999

instance (year : Int) : Decidable (KnownYear year) := inferInstanceAs (Decidable (_ ∧ _))

theorem KnownYear.of_plain {d : Date} (plain : d.HasPlainYear) : KnownYear d.year :=
  ⟨le_trans (by decide) plain.1, plain.2⟩

/-- A date of a known year is read back, with the text behind it. -/
theorem date?_text {d : Date} (on : d.OnCalendar) (known : KnownYear d.year) (rest : List Char) :
    date? (d.text.toList ++ rest) = some (d, rest) := by
  obtain ⟨low, high⟩ := known
  have years : d.year.natAbs < 10 ^ 4 := by omega
  have fields := fields?_padded years on.firstMonth on.lastMonth on.firstDay on.day_le_31 rest
  simp only [Date.toList_text, List.append_assoc, List.cons_append]
  by_cases negative : d.year < 0
  · have sign : -(d.year.natAbs : Int) = d.year := by omega
    rw [Date.toList_yearText_negative negative, List.cons_append, date?_negative, fields,
      Option.bind_some, sign, if_pos low]
  · have sign : (d.year.natAbs : Int) = d.year := by omega
    have plain : d.HasPlainYear := ⟨by omega, high⟩
    have unsigned : ((padded 4 d.year.natAbs).toList ++ '-' :: ((padded 2 d.month).toList ++
        '-' :: ((padded 2 d.day).toList ++ rest))).head? ≠ some '-' := by
      obtain ⟨first, tail, shape, digit⟩ := exists_padded_cons 4 d.year.natAbs
      rw [shape]
      rintro ⟨⟩
      cases digit
    rw [Date.yearText_plain plain, date?_unsigned unsigned, fields, Option.map_some, sign]

theorem digits?_rest {width least most n : Nat} {cs rest : List Char}
    (read : digits? width least most cs = some (n, rest)) : rest = cs.drop width := by
  simp only [digits?, Option.ite_none_right_eq_some, Option.some.injEq, Prod.mk.injEq] at read
  exact read.2.2.symm

theorem fields?_long {year : Nat} (long : 10 ^ 4 ≤ year) (rest : List Char) :
    fields? ((padded 4 year).toList ++ rest) = none := by
  have width := width_lt_length_padded (by decide) long
  rw [fields?, Option.bind_eq_bind, Option.bind_eq_none_iff]
  rintro ⟨n, cs⟩ read
  rw [digits?_rest read, List.drop_append_of_le_length width.le]
  -- The character behind four digits is a digit too.
  obtain ⟨c, tail, shape⟩ := List.exists_cons_of_length_pos
    (l := (padded 4 year).toList.drop 4) (by rw [List.length_drop]; omega)
  have digit := run_padded 4 year c (List.mem_of_mem_drop (shape ▸ List.mem_cons_self))
  have other : '-' ≠ c := by
    rintro rfl
    cases digit
  simp only [shape, List.cons_append, expect, if_neg other, Option.bind_eq_bind, Option.bind_none]

theorem date?_unknown {d : Date} (on : d.OnCalendar) (unknown : ¬ KnownYear d.year)
    (rest : List Char) : date? (d.text.toList ++ rest) = none := by
  simp only [Date.toList_text, List.append_assoc, List.cons_append]
  by_cases large : 9999 < d.year
  · rw [Date.toList_yearText_large large, List.cons_append, date?_unsigned (by simp), fields?,
      digits?_none (by decide) rfl]
    rfl
  · have negative : d.year < 0 := by
      simp only [KnownYear] at unknown
      omega
    rw [Date.toList_yearText_negative negative, List.cons_append, date?_negative]
    by_cases years : d.year.natAbs < 10 ^ 4
    · have early : ¬ -4713 ≤ -(d.year.natAbs : Int) := by
        simp only [KnownYear] at unknown
        omega
      rw [fields?_padded years on.firstMonth on.lastMonth on.firstDay on.day_le_31,
        Option.bind_some, if_neg early]
    · rw [fields?_long (by omega), Option.bind_none]

theorem wholePart_second {second : Nat} (small : second < 60) :
    wholePart (.ofInt second) = second ∧
      wholePart (((Binary64.ofInt second).mul (.ofInt 1000)).add half) = second * 1000 := by
  have all : ∀ second < 60, wholePart (.ofInt (second : Nat)) = (second : Int) ∧
      wholePart (((Binary64.ofInt (second : Nat)).mul (.ofInt 1000)).add half) = second * 1000 := by
    decide +kernel
  exact all second small

/-- The hands of a clock in universal time, at a whole second. -/
def handsOf (t : WallTime) : Hands := ⟨t.hour, t.minute, .ofInt t.second, 0⟩

theorem handsOf_millis {t : WallTime} (plain : t.IsPlain) :
    (handsOf t).millis = (t.secondOfDay : Int) * 1000 := by
  rw [Hands.millis, handsOf, (wholePart_second plain.second_lt).2, plain.secondOfDay_eq]
  push_cast
  omega

theorem clock?_text {t : WallTime} (plain : t.IsPlain) :
    clock? t.clockText.toList = some (handsOf t) := by
  have hours := t.hour_lt
  have minutes := t.minute_lt
  have seconds := plain.second_lt
  have last : second? (padded 2 t.second).toList = some (.ofInt t.second, []) := by
    rw [← List.append_nil (padded 2 t.second).toList, second?,
      digits?_padded (by decide) (by omega) (Nat.zero_le _) (by omega) []]
    rfl
  rw [WallTime.toList_clockText, clock?, digits?_padded (by decide) (by omega) (Nat.zero_le _)
    (by omega)]
  simp only [Option.bind_eq_bind, Option.bind_some, expect_cons]
  rw [digits?_padded (by decide) (by omega) (Nat.zero_le _) (by omega)]
  simp only [Option.bind_some, last]
  rfl

theorem clock?_leap {t : WallTime} (leap : t.second = 60) :
    clock? t.clockText.toList = none := by
  have hours := t.hour_lt
  have minutes := t.minute_lt
  have last : second? (padded 2 60).toList = none := by decide
  rw [WallTime.toList_clockText, clock?, digits?_padded (by decide) (by omega) (Nat.zero_le _)
    (by omega)]
  simp only [Option.bind_eq_bind, Option.bind_some, expect_cons]
  rw [digits?_padded (by decide) (by omega) (Nat.zero_le _) (by omega), leap]
  simp only [Option.bind_some, last, Option.bind_none]

theorem clock?_none {c : Char} (noDigit : Digits.isDigit c = false) (cs : List Char) :
    clock? (c :: cs) = none := by
  rw [clock?, digits?_none (by decide) noDigit]
  rfl

theorem written?_date {d : Date} (on : d.OnCalendar) (known : KnownYear d.year) :
    written? d.text.toList = some ⟨some d, none⟩ := by
  have read := date?_text on known []
  rw [List.append_nil] at read
  rw [written?, read]
  rfl

theorem written?_clock {t : WallTime} (known : KnownYear t.date.year) :
    written? t.dateTimeText.toList
      = (clock? t.clockText.toList).map fun clock => ⟨some t.date, some clock⟩ := by
  obtain ⟨first, rest, shape, digit⟩ := exists_padded_cons 2 t.hour
  have noBlank : (Numeral.isSpace first || decide (first = 'T')) = false := by
    have noT : first ≠ 'T' := by
      rintro rfl
      cases digit
    rw [isSpace_digit digit, decide_eq_false noT, Bool.or_false]
  have front : ∃ tail, t.clockText.toList = first :: tail := by
    rw [WallTime.toList_clockText, shape]
    exact ⟨_, rfl⟩
  obtain ⟨tail, front⟩ := front
  rw [written?, WallTime.toList_dateTimeText, date?_text t.date_onCalendar known]
  simp only [front]
  rw [List.dropWhile_cons_of_pos (by decide), List.dropWhile_cons_of_neg (by simp [noBlank])]

def writtenOf (t : WallTime) : Written := ⟨some t.date, some (handsOf t)⟩

theorem written?_dateTime {t : WallTime} (known : KnownYear t.date.year) (plain : t.IsPlain) :
    written? t.dateTimeText.toList = some (writtenOf t) := by
  rw [written?_clock known, clock?_text plain, Option.map_some, writtenOf]

theorem writtenOf_millis {t : WallTime} (plain : t.IsPlain) :
    (writtenOf t).millis = t.seconds * 1000 := by
  rw [Written.millis, writtenOf, Option.getD_some, Option.map_some, Option.getD_some,
    handsOf_millis plain, WallTime.date, Date.toDay_ofDay, t.seconds_eq, Int.add_mul, Int.mul_assoc]
  rfl

theorem reading_second (t : WallTime) : reading (t.seconds * 1000) = ⟨t.seconds, 0⟩ := by
  rw [reading, Int.mul_ediv_cancel _ (by decide)]

theorem Shown.ofMillis_clock (day : Int) {hour minute second : Nat} (hours : hour < 24)
    (minutes : minute < 60) (seconds : second < 60) :
    Shown.ofMillis (day * 86400000
      + ((hour * 3600000 + minute * 60000 : Nat) + (second : Int) * 1000))
      = ⟨Date.ofDay day, hour, minute, second⟩ := by
  have whole : (day * 86400000 + ((hour * 3600000 + minute * 60000 : Nat) + (second : Int) * 1000))
      / 1000 = day * 86400 + ((hour * 60 + minute) * 60 + second : Nat) := by
    push_cast
    omega
  simp only [Shown.ofMillis, reading, WallTime.date, WallTime.day, WallTime.hour, WallTime.minute,
    WallTime.second, WallTime.secondOfDay, whole, Shown.mk.injEq, Nat.zero_div]
  refine ⟨congrArg Date.ofDay ?_, ?_, ?_, ?_⟩ <;> omega

/-- Hands within the day, at a whole second. -/
structure Hands.IsWhole (h : Hands) : Prop where
  hour : h.hour < 24
  minute : h.minute < 60
  second : ∃ second < 60, h.second = .ofInt (second : Nat)

/-- A text shows the time that it writes, unless its clock stands at 24 hours or has a part of a
second that the time rounds. -/
theorem Written.shown_eq {w : Written} (whole : ∀ h ∈ w.clock, h.ahead = 0 → h.IsWhole) :
    w.shown = .ofMillis w.millis := by
  unfold Written.shown
  cases clock : w.clock with
  | none => rfl
  | some h =>
    by_cases ahead : h.ahead = 0
    · obtain ⟨hours, minutes, second, seconds, exact⟩ := whole h clock ahead
      obtain ⟨shown, rounded⟩ := wholePart_second seconds
      have own : Shown.ofMillis w.millis
          = ⟨Date.ofDay (w.date.getD ⟨2000, 1, 1⟩).toDay, h.hour, h.minute, second⟩ := by
        rw [Written.millis, clock, Option.map_some, Option.getD_some, Hands.millis, exact, rounded,
          ahead, Int.zero_mul, Int.sub_zero, Shown.ofMillis_clock _ hours minutes seconds]
      simp only [ahead, ne_eq, not_true, if_false, own, exact, shown, Int.toNat_natCast]
      cases w.date with
      | none => rfl
      | some date => simp only [Option.getD_some, ite_self]
    · exact if_pos ahead

theorem handsOf_whole {t : WallTime} (plain : t.IsPlain) : (handsOf t).IsWhole :=
  ⟨t.hour_lt, t.minute_lt, t.second, plain.second_lt, rfl⟩

theorem writtenOf_shown {t : WallTime} (plain : t.IsPlain) :
    (writtenOf t).shown = .ofMillis (t.seconds * 1000) := by
  rw [← writtenOf_millis plain]
  refine Written.shown_eq fun h own _ => ?_
  obtain rfl := Option.some.inj own
  exact handsOf_whole plain

theorem rawNumber?_dashed {s : String} (year : Nat) (rest : List Char)
    (trimmed : s.toList.dropWhile Numeral.isSpace = s.toList)
    (body : (Digits.splitSign s.toList).2 = (padded 4 year).toList ++ '-' :: rest) :
    rawNumber? s = none := by
  have incomplete : (Numeral.ofText s).isComplete = false := by
    have left : ((padded 4 year).toList ++ '-' :: rest).dropWhile Digits.isDigit = '-' :: rest := by
      rw [List.dropWhile_append_of_pos fun c member => run_padded 4 year c member,
        List.dropWhile_cons_of_neg (by decide)]
    simp only [Numeral.ofText, trimmed, body, left, Numeral.splitFraction, Numeral.splitExponent]
    simp [Numeral.isSpace]
  delta rawNumber?
  simp only [incomplete, Bool.false_eq_true, if_false]
  split <;> rfl

theorem rawNumber?_signed {sign : Char} (signs : sign = '-' ∨ sign = '+') (year : Nat)
    (rest : List Char) {s : String}
    (shape : s.toList = sign :: ((padded 4 year).toList ++ '-' :: rest)) : rawNumber? s = none := by
  have noSpace : Numeral.isSpace sign = false := by rcases signs with rfl | rfl <;> rfl
  refine rawNumber?_dashed year rest ?_ ?_
  · rw [shape, List.dropWhile_cons_of_neg (by simp [noSpace])]
  · rw [shape]
    rcases signs with rfl | rfl <;> rfl

theorem rawNumber?_unsigned (year : Nat) (rest : List Char) {s : String}
    (shape : s.toList = (padded 4 year).toList ++ '-' :: rest) : rawNumber? s = none := by
  obtain ⟨first, tail, front, digit⟩ := exists_padded_cons 4 year
  refine rawNumber?_dashed year rest ?_ ?_
  · rw [shape, front, List.cons_append, List.dropWhile_cons_of_neg (by simp [isSpace_digit digit])]
  · rw [shape, front, List.cons_append]
    have noSign : first ≠ '-' ∧ first ≠ '+' := by
      constructor <;> rintro rfl <;> cases digit
    unfold Digits.splitSign
    split
    · rename_i same
      exact absurd (List.cons.inj same).1 noSign.1
    · rename_i same
      exact absurd (List.cons.inj same).1 noSign.2
    · rfl

theorem moment?_text (s : String) : moment? (.text s) = match written? s.toList with
    | some written => some written.millis
    | none => (rawNumber? s).bind days? := by
  delta moment?
  rfl

theorem time?_unknown {d : Date} (on : d.OnCalendar) (unknown : ¬ KnownYear d.year) :
    time? (.text d.text) = none := by
  have noDate := date?_unknown on unknown []
  rw [List.append_nil] at noDate
  obtain ⟨sign, signs, rest, shape⟩ : ∃ sign, (sign = '-' ∨ sign = '+') ∧ ∃ rest,
      d.text.toList = sign :: ((padded 4 d.year.natAbs).toList ++ '-' :: rest) := by
    rw [Date.toList_text]
    by_cases large : 9999 < d.year
    · rw [Date.toList_yearText_large large]
      exact ⟨'+', .inr rfl, _, rfl⟩
    · have negative : d.year < 0 := by
        simp only [KnownYear] at unknown
        omega
      rw [Date.toList_yearText_negative negative]
      exact ⟨'-', .inl rfl, _, rfl⟩
  have noDigit : Digits.isDigit sign = false := by rcases signs with rfl | rfl <;> rfl
  have unwritten : written? d.text.toList = none := by
    rw [written?, noDate, shape]
    simp only [clock?_none noDigit, Option.map_none]
  simp only [time?, moment?_text, unwritten, rawNumber?_signed signs _ _ shape, Option.bind_none]

theorem valid?_eq_some {millis found : Int} :
    valid? millis = some found ↔ isValid millis = true ∧ millis = found := by
  rw [valid?, Option.ite_none_right_eq_some, Option.some.injEq]

theorem moment?_of_time? {c : Cell} {millis : Int} (read : time? c = some millis) :
    moment? c = some millis := by
  obtain ⟨found, own, valid⟩ := Option.bind_eq_some_iff.mp read
  rw [own, (valid?_eq_some.mp valid).2]

/-- A value that is read as a time and shows it. Texts whose fraction is rounded up to the next second
do not, nor do those of a clock at 24 hours. -/
structure Reads (c : Cell) (millis : Int) : Prop where
  time : time? c = some millis
  shown : shown? c = some (.ofMillis millis)

namespace Reads

variable {c : Cell} {millis : Int}

theorem dateTime (reads : Reads c millis) :
    Clock.dateTime c = .text (reading millis).dateTimeText := by
  rw [Clock.dateTime, reads.shown]
  rfl

theorem of_written {s : String} {written : Written} (own : written? s.toList = some written)
    (shown : written.shown = .ofMillis written.millis) (valid : isValid written.millis = true) :
    Reads (.text s) written.millis := by
  have time : time? (.text s) = some written.millis := by
    rw [time?, moment?_text, own]
    exact if_pos valid
  refine ⟨time, ?_⟩
  rw [shown?, time, show writtenBy? (.text s) = some written from own, Option.map_some,
    Option.map_some, Option.getD_some, shown]

theorem of_date {d : Date} (on : d.OnCalendar) (known : KnownYear d.year)
    (valid : isValid (d.toDay * 86400000) = true) : Reads (.text d.text) (d.toDay * 86400000) := by
  have whole : (⟨some d, none⟩ : Written).millis = d.toDay * 86400000 := Int.add_zero _
  rw [← whole] at valid ⊢
  exact of_written (written?_date on known) rfl valid

theorem of_dateTime {t : WallTime} (known : KnownYear t.date.year) (plain : t.IsPlain)
    (valid : isValid (t.seconds * 1000) = true) : Reads (.text t.dateTimeText) (t.seconds * 1000) := by
  rw [← writtenOf_millis plain] at valid ⊢
  refine of_written (written?_dateTime known plain) ?_ valid
  rw [writtenOf_shown plain, writtenOf_millis plain]

end Reads

def ShowsTime (c : Cell) : Prop := ∀ millis, time? c = some millis → Reads c millis

theorem showsTime_text {s : String}
    (whole : ∀ w ∈ written? s.toList, ∀ h ∈ w.clock, h.ahead = 0 → h.IsWhole) :
    ShowsTime (.text s) := by
  intro millis read
  refine ⟨read, ?_⟩
  have moment := moment?_of_time? read
  rw [moment?_text] at moment
  rw [shown?, read, Option.map_some, show writtenBy? (.text s) = written? s.toList from rfl]
  cases own : written? s.toList with
  | none => rfl
  | some w =>
    rw [own] at moment
    rw [Option.map_some, Option.getD_some, Written.shown_eq (whole w own), Option.some.inj moment]

theorem dateTime_unread {c : Cell} (unread : time? c = none) : dateTime c = .null := by
  rw [dateTime, shown?, unread]
  rfl

theorem date_unread {c : Cell} (unread : time? c = none) : date c = .null := by
  rw [date, shown?, unread]
  rfl

theorem time?_leap {t : WallTime} (plain : t.date.HasPlainYear) (leap : t.second = 60) :
    time? (.text t.dateTimeText) = none := by
  have known := KnownYear.of_plain plain
  have shape : t.dateTimeText.toList = (padded 4 t.date.year.natAbs).toList ++ '-' ::
      ((padded 2 t.date.month).toList ++ '-' :: (padded 2 t.date.day).toList
        ++ ' ' :: t.clockText.toList) := by
    rw [WallTime.toList_dateTimeText, Date.toList_text, Date.yearText_plain plain]
    simp
  rw [time?, moment?_text, written?_clock known, clock?_leap leap, Option.map_none]
  simp only [rawNumber?_unsigned _ _ shape, Option.bind_none]

theorem isValid_iff {millis : Int} :
    isValid millis = true ↔ -210866760000000 ≤ millis ∧ millis < 253402300800000 := by
  rw [isValid, epochMillis, epochHalfDays, endMillis, Bool.and_eq_true, decide_eq_true_eq,
    decide_eq_true_eq]
  omega

theorem isValid_of_plain {t : WallTime} (plain : t.date.HasPlainYear) :
    isValid (t.seconds * 1000) = true := by
  obtain ⟨first, last⟩ := Date.plain_iff.mp plain
  simp only [WallTime.day] at first last
  rw [isValid_iff]
  omega

theorem Reads.of_plain {t : WallTime} (year : t.date.HasPlainYear) (plain : t.IsPlain) :
    Reads (.text t.dateTimeText) (t.seconds * 1000) :=
  .of_dateTime (.of_plain year) plain (isValid_of_plain year)

theorem year_le_of_isValid {millis : Int} (valid : isValid millis = true) :
    (reading millis).date.year ≤ 9999 := by
  have last : (Date.ofDay 2932896).year = 9999 := by decide +kernel
  rw [isValid_iff] at valid
  refine (Date.year_le ?_).trans last.le
  simp only [WallTime.day, reading]
  omega

theorem isValid_of_time? {c : Cell} {millis : Int} (read : time? c = some millis) :
    isValid millis = true := by
  obtain ⟨_, -, valid⟩ := Option.bind_eq_some_iff.mp read
  obtain ⟨within, rfl⟩ := valid?_eq_some.mp valid
  exact within

theorem date_reading (day : Int) : (reading (day * 86400000)).date = Date.ofDay day := by
  have midnight : day * 86400000 / 1000 / 86400 = day := by omega
  rw [reading, WallTime.date, WallTime.day, midnight]

/-- A stored date is cut to itself where the store knows it. -/
theorem date_text {d : Date} (on : d.OnCalendar) : date (.text d.text)
    = if KnownYear d.year ∧ isValid (d.toDay * 86400000) = true then .text d.text else .null := by
  split
  case isTrue within =>
    have shown : (Shown.ofMillis (d.toDay * 86400000)).date = d := by
      rw [Shown.ofMillis, date_reading, Date.ofDay_toDay on]
    rw [date, (Reads.of_date on within.1 within.2).shown, ofOption, shown]
  case isFalse outside =>
    refine date_unread ?_
    by_cases known : KnownYear d.year
    · have invalid : ¬isValid (d.toDay * 86400000) = true := fun valid => outside ⟨known, valid⟩
      rw [time?, moment?_text, written?_date on known]
      exact if_neg (by rwa [Written.millis, Option.map_none, Option.getD_none, Int.add_zero])
    · exact time?_unknown on known

theorem date_text_plain {d : Date} (on : d.OnCalendar) (plain : d.HasPlainYear) :
    date (.text d.text) = .text d.text := by
  have known := KnownYear.of_plain plain
  have valid : isValid (d.toDay * 86400000) = true := by
    have same : (WallTime.ofDate d).date = d := by
      rw [WallTime.ofDate, WallTime.date, WallTime.day, Int.mul_ediv_cancel _ (by decide),
        Date.ofDay_toDay on]
    have held := isValid_of_plain (t := WallTime.ofDate d) (by rwa [same])
    rwa [WallTime.ofDate, Int.mul_assoc] at held
  rw [date_text on, if_pos ⟨known, valid⟩]

theorem knownYear_of_isValid {t : WallTime} (valid : isValid (t.seconds * 1000) = true) :
    KnownYear t.date.year := by
  have first : (Date.ofDay (-2440588)).year = -4713 := by decide +kernel
  have last : (Date.ofDay 2932896).year = 9999 := by decide +kernel
  rw [isValid_iff] at valid
  constructor
  · exact first.ge.trans (Date.year_le (by simp only [WallTime.day]; omega))
  · exact (Date.year_le (by simp only [WallTime.day]; omega)).trans last.le

theorem dateTime_text_known {t : WallTime} (valid : isValid (t.seconds * 1000) = true)
    (within : t.IsPlain) : dateTime (.text t.dateTimeText) = .text t.dateTimeText := by
  rw [(Reads.of_dateTime (knownYear_of_isValid valid) within valid).dateTime, reading_second,
    within.dateTimeText_eq]

theorem shown?_onCalendar {c : Cell} {s : Shown} (shows : shown? c = some s) :
    s.date.OnCalendar := by
  obtain ⟨millis, -, rfl⟩ := Option.map_eq_some_iff.mp shows
  have counted (millis : Int) : (Shown.ofMillis millis).date.OnCalendar :=
    (reading millis).date_onCalendar
  cases writtenBy? c with
  | none => exact counted millis
  | some w =>
    rw [Option.map_some, Option.getD_some]
    unfold Written.shown
    dsimp only
    split
    · exact counted _
    · split
      · exact counted _
      · dsimp only
        split
        · split
          · exact Date.ofDay_onCalendar _
          · exact counted _
        · exact counted _

end Analytics.Clock
