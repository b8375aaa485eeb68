import Analytics.Proofs.Number.Digits
import Analytics.Proofs.Time.Calendar

/-!
Texts of dates and clocks. Within the years of four digits they stand in the order of the times that
they write.
-/

namespace Analytics

theorem append_lt_append_iff {as bs cs ds : List Char} (length : as.length = bs.length) :
    as ++ cs < bs ++ ds ↔ as < bs ∨ as = bs ∧ cs < ds := by
  induction as generalizing bs with
  | nil =>
    obtain rfl := List.length_eq_zero_iff.mp length.symm
    simp
  | cons a as ih =>
    cases bs with
    | nil => cases length
    | cons b bs =>
      rw [List.cons_append, List.cons_append, List.cons_lt_cons_iff, List.cons_lt_cons_iff,
        ih (Nat.succ.inj length), List.cons.injEq]
      tauto

theorem padded_append_lt_iff {width n m : Nat} (wide : 0 < width) (fits : n < 10 ^ width)
    (fits' : m < 10 ^ width) (c : Char) (cs ds : List Char) :
    (padded width n).toList ++ c :: cs < (padded width m).toList ++ c :: ds
      ↔ n < m ∨ n = m ∧ cs < ds := by
  rw [append_lt_append_iff ((length_padded wide fits).trans (length_padded wide fits').symm),
    padded_lt_iff wide fits fits', padded_inj, List.cons_lt_cons_iff]
  simp only [Char.lt_irrefl, false_or, true_and]

theorem compare_texts {s t : String} {i j : Int} (before : s < t ↔ i < j) (after : t < s ↔ j < i) :
    compare s t = compare i j := by
  have less {s t : String} : compare s t = .lt ↔ s < t := compareOfLessAndEq_eq_lt
  rcases lt_trichotomy i j with lt | rfl | gt
  · rw [compare_lt_iff_lt.mpr lt, less.mpr (before.mpr lt)]
  · have notLess : compare s t ≠ .lt := fun lt => lt_irrefl i (before.mp (less.mp lt))
    have notMore : compare s t ≠ .gt := fun gt =>
      lt_irrefl i (after.mp (less.mp (Std.OrientedCmp.gt_iff_lt.mp gt)))
    rw [compare_eq_iff_eq.mpr (rfl : i = i)]
    revert notLess notMore
    cases compare s t <;> simp
  · rw [compare_gt_iff_gt.mpr gt, Std.OrientedCmp.gt_iff_lt, less.mpr (after.mpr gt)]

namespace Date

/-- A year that is written with four digits and no sign. -/
def HasPlainYear (d : Date) : Prop := 0 ≤ d.year ∧ d.year ≤ 9999

instance (d : Date) : Decidable d.HasPlainYear := inferInstanceAs (Decidable (_ ∧ _))

theorem toList_text (d : Date) : d.text.toList
    = (yearText d.year).toList ++ '-' :: ((padded 2 d.month).toList ++ '-' ::
        (padded 2 d.day).toList) := by
  simp [text, String.toList_append]

theorem yearText_plain {d : Date} (plain : d.HasPlainYear) :
    yearText d.year = padded 4 d.year.natAbs := if_pos plain

/-- The text of a year before those of four digits begins with a sign that no digit comes before. -/
theorem toList_yearText_negative {year : Int} (negative : year < 0) :
    (yearText year).toList = '-' :: (padded 4 year.natAbs).toList := by
  have notPlain : ¬(0 ≤ year ∧ year ≤ 9999) := fun plain => by omega
  simp [yearText, if_neg notPlain, if_pos negative, String.toList_append]

theorem toList_yearText_large {year : Int} (large : 9999 < year) :
    (yearText year).toList = '+' :: (padded 4 year.natAbs).toList := by
  have notPlain : ¬(0 ≤ year ∧ year ≤ 9999) := fun plain => by omega
  have notNegative : ¬ year < 0 := by omega
  simp [yearText, if_neg notPlain, if_neg notNegative, String.toList_append]

theorem yearText_cases (year : Int) :
    (0 ≤ year ∧ (yearText year).toList = (padded 4 year.natAbs).toList) ∨
      (year < 0 ∧ (yearText year).toList = '-' :: (padded 4 year.natAbs).toList) ∨
      (9999 < year ∧ (yearText year).toList = '+' :: (padded 4 year.natAbs).toList) := by
  by_cases negative : year < 0
  · exact .inr (.inl ⟨negative, toList_yearText_negative negative⟩)
  by_cases large : 9999 < year
  · exact .inr (.inr ⟨large, toList_yearText_large large⟩)
  · exact .inl ⟨by omega, congrArg String.toList (if_pos ⟨by omega, by omega⟩)⟩

/-- Years are told apart by what stands in front of the first dash behind them. -/
theorem yearText_append_inj {year year' : Int} {as bs : List Char} :
    (yearText year).toList ++ '-' :: as = (yearText year').toList ++ '-' :: bs
      ↔ year = year' ∧ as = bs := by
  refine ⟨fun same => ?_, fun ⟨years, tails⟩ => by rw [years, tails]⟩
  have digits {n m : Nat} (same : (padded 4 n).toList ++ '-' :: as = (padded 4 m).toList ++ '-' :: bs) :
      n = m ∧ as = bs := by
    rwa [(run_padded _ _).append_inj (run_padded _ _) rfl, padded_inj] at same
  rcases yearText_cases year with ⟨plain, own⟩ | ⟨negative, own⟩ | ⟨large, own⟩ <;>
    rcases yearText_cases year' with ⟨plain', own'⟩ | ⟨negative', own'⟩ | ⟨large', own'⟩ <;>
    rw [own, own'] at same
  · obtain ⟨size, tails⟩ := digits same
    exact ⟨by omega, tails⟩
  · exact absurd same.symm (cons_ne_padded rfl _ _ _ _)
  · exact absurd same.symm (cons_ne_padded rfl _ _ _ _)
  · exact absurd same (cons_ne_padded rfl _ _ _ _)
  · obtain ⟨size, tails⟩ := digits (List.cons.inj same).2
    exact ⟨by omega, tails⟩
  · exact absurd (List.cons.inj same).1 (by decide)
  · exact absurd same (cons_ne_padded rfl _ _ _ _)
  · exact absurd (List.cons.inj same).1 (by decide)
  · obtain ⟨size, tails⟩ := digits (List.cons.inj same).2
    exact ⟨by omega, tails⟩

theorem OnCalendar.day_lt {d : Date} (on : d.OnCalendar) : d.day < 10 ^ 2 := by
  have := on.day_le_31
  omega

theorem OnCalendar.month_lt {d : Date} (on : d.OnCalendar) : d.month < 10 ^ 2 := by
  have := on.lastMonth
  omega

theorem HasPlainYear.natAbs_lt {d : Date} (plain : d.HasPlainYear) :
    d.year.natAbs < 10 ^ 4 := by
  have := plain.2
  have := plain.1
  omega

theorem HasPlainYear.natAbs_lt_iff {d e : Date} (plain : d.HasPlainYear)
    (plain' : e.HasPlainYear) : d.year.natAbs < e.year.natAbs ↔ d.year < e.year := by
  have := plain.1
  have := plain'.1
  omega

theorem HasPlainYear.natAbs_inj {d e : Date} (plain : d.HasPlainYear) (plain' : e.HasPlainYear) :
    d.year.natAbs = e.year.natAbs ↔ d.year = e.year := by
  have := plain.1
  have := plain'.1
  omega

variable {d e : Date}

/-- Texts of dates, with other texts behind them, stand in the order of the dates. -/
theorem text_append_lt_iff (onD : d.OnCalendar) (onE : e.OnCalendar) (plainD : d.HasPlainYear)
    (plainE : e.HasPlainYear) (cs ds : List Char) :
    d.text.toList ++ cs < e.text.toList ++ ds ↔ d.Before e ∨ d = e ∧ cs < ds := by
  have days := (length_padded (by decide) onD.day_lt).trans
    (length_padded (by decide) onE.day_lt).symm
  simp only [toList_text, yearText_plain plainD, yearText_plain plainE, List.append_assoc,
    List.cons_append]
  rw [padded_append_lt_iff (by decide) plainD.natAbs_lt plainE.natAbs_lt,
    padded_append_lt_iff (by decide) onD.month_lt onE.month_lt, append_lt_append_iff days,
    padded_lt_iff (by decide) onD.day_lt onE.day_lt, padded_inj,
    plainD.natAbs_lt_iff plainE, plainD.natAbs_inj plainE]
  have same : d = e ↔ d.year = e.year ∧ d.month = e.month ∧ d.day = e.day := by
    cases d
    cases e
    simp only [mk.injEq]
  simp only [same, Before, and_or_left, or_assoc, and_assoc]

theorem text_lt_iff (onD : d.OnCalendar) (onE : e.OnCalendar) (plainD : d.HasPlainYear)
    (plainE : e.HasPlainYear) : d.text < e.text ↔ d.Before e := by
  have order := text_append_lt_iff onD onE plainD plainE [] []
  simp only [List.append_nil, List.lt_irrefl, and_false, or_false] at order
  exact order

theorem text_inj (same : d.text = e.text) : d = e := by
  have chars := congrArg String.toList same
  rw [toList_text, toList_text, yearText_append_inj, (run_padded _ _).append_inj (run_padded _ _) rfl,
    padded_inj, padded_inj] at chars
  cases d
  cases e
  simp only [mk.injEq]
  exact chars

theorem text_append_inj {cs ds : List Char}
    (same : d.text.toList ++ ' ' :: cs = e.text.toList ++ ' ' :: ds) : d = e ∧ cs = ds := by
  simp only [toList_text, List.append_assoc, List.cons_append] at same
  rw [yearText_append_inj, (run_padded _ _).append_inj (run_padded _ _) rfl,
    (run_padded _ _).append_inj (run_padded _ _) rfl, padded_inj, padded_inj] at same
  obtain ⟨year, month, day, tails⟩ := same
  cases d
  cases e
  exact ⟨by simp only [mk.injEq]; exact ⟨year, month, day⟩, tails⟩

theorem text_append_lt_of_negative (negative : d.year < 0) (plain : e.HasPlainYear)
    (cs ds : List Char) : d.text.toList ++ cs < e.text.toList ++ ds := by
  obtain ⟨first, rest, shape, digit⟩ := exists_padded_cons 4 e.year.natAbs
  have := Digits.bounds digit
  simp only [toList_text, toList_yearText_negative negative, yearText_plain plain, shape,
    List.cons_append, List.cons_lt_cons_iff, Char.lt_def, UInt32.lt_iff_toNat_lt]
  left
  change 45 < first.toNat
  omega

theorem compare_text (onD : d.OnCalendar) (onE : e.OnCalendar) (early : d.year ≤ 9999)
    (plain : e.HasPlainYear) : compare d.text e.text = compare d.toDay e.toDay := by
  by_cases negative : d.year < 0
  · have before : d.text < e.text := by
      have less := text_append_lt_of_negative negative plain [] []
      rwa [List.append_nil, List.append_nil] at less
    have year : d.year < e.year := by
      have := plain.1
      omega
    have day := toDay_lt_of_before onD onE (.inl year)
    exact compare_texts (iff_of_true before day)
      (iff_of_false (Std.Asymm.asymm _ _ before) day.asymm)
  · have plainD : d.HasPlainYear := ⟨by omega, early⟩
    exact compare_texts
      ((text_lt_iff onD onE plainD plain).trans (toDay_lt_iff onD onE).symm)
      ((text_lt_iff onE onD plain plainD).trans (toDay_lt_iff onE onD).symm)

theorem year_le {early late : Int} (le : early ≤ late) :
    (ofDay early).year ≤ (ofDay late).year := by
  by_contra more
  have := (ofDay_before_iff late early).mp (.inl (by omega))
  omega

theorem plain_iff {day : Int} : (ofDay day).HasPlainYear ↔ -719528 ≤ day ∧ day ≤ 2932896 := by
  have first : (ofDay (-719529)).year = -1 ∧ (ofDay (-719528)).year = 0 := by decide +kernel
  have last : (ofDay 2932896).year = 9999 ∧ (ofDay 2932897).year = 10000 := by decide +kernel
  constructor
  · rintro ⟨early, late⟩
    by_contra outside
    have beyond : day ≤ -719529 ∨ 2932897 ≤ day := by omega
    rcases beyond with before | behind
    · have := year_le before
      omega
    · have := year_le behind
      omega
  · rintro ⟨from_, upTo⟩
    exact ⟨first.2.ge.trans (year_le from_), (year_le upTo).trans last.1.le⟩

theorem plain_between {first last day : Int} (low : (ofDay first).HasPlainYear)
    (high : (ofDay last).HasPlainYear) (from_ : first ≤ day) (upTo : day ≤ last) :
    (ofDay day).HasPlainYear :=
  ⟨low.1.trans (year_le from_), (year_le upTo).trans high.2⟩

end Date

namespace WallTime

variable {t u : WallTime}

theorem date_onCalendar (t : WallTime) : t.date.OnCalendar := Date.ofDay_onCalendar _

theorem seconds_eq (t : WallTime) : t.seconds = t.day * 86400 + (t.secondOfDay : Int) := by
  simp only [day, secondOfDay]
  omega

theorem secondOfDay_lt (t : WallTime) : t.secondOfDay < 86400 := by
  simp only [secondOfDay]
  omega

theorem hour_lt (t : WallTime) : t.hour < 24 := by
  have := t.secondOfDay_lt
  simp only [hour]
  omega

theorem minute_lt (t : WallTime) : t.minute < 60 := Nat.mod_lt _ (by decide)

/-- A reading that is not inside a leap second. -/
def IsPlain (t : WallTime) : Prop := t.nanos < nanosPerSecond

theorem isPlain_whole (seconds : Int) : (⟨seconds, 0⟩ : WallTime).IsPlain :=
  (by decide : 0 < nanosPerSecond)

theorem IsPlain.second_eq (plain : t.IsPlain) : t.second = t.secondOfDay % 60 := by
  rw [second, Nat.div_eq_of_lt plain, Nat.add_zero]

theorem IsPlain.second_lt (plain : t.IsPlain) : t.second < 60 := by
  rw [plain.second_eq]
  exact Nat.mod_lt _ (by decide)

theorem IsPlain.secondOfDay_eq (plain : t.IsPlain) :
    t.secondOfDay = t.hour * 3600 + t.minute * 60 + t.second := by
  simp only [plain.second_eq, hour, minute]
  omega

theorem toList_clockText (t : WallTime) : t.clockText.toList
    = (padded 2 t.hour).toList ++ ':' :: ((padded 2 t.minute).toList ++ ':' ::
        (padded 2 t.second).toList) := by
  simp [clockText, String.toList_append]

theorem toList_dateTimeText (t : WallTime) :
    t.dateTimeText.toList = t.date.text.toList ++ ' ' :: t.clockText.toList := by
  simp [dateTimeText, String.toList_append]

theorem IsPlain.dateTimeText_eq (plain : t.IsPlain) :
    t.dateTimeText = (⟨t.seconds, 0⟩ : WallTime).dateTimeText := by
  have second : t.second = (⟨t.seconds, 0⟩ : WallTime).second :=
    plain.second_eq.trans (isPlain_whole _).second_eq.symm
  rw [dateTimeText, dateTimeText, clockText, clockText, second]
  rfl

theorem dateTimeText_inj (plain : t.IsPlain) (plain' : u.IsPlain)
    (same : t.dateTimeText = u.dateTimeText) : t.seconds = u.seconds := by
  have chars := congrArg String.toList same
  rw [toList_dateTimeText, toList_dateTimeText] at chars
  obtain ⟨date, clock⟩ := Date.text_append_inj chars
  rw [toList_clockText, toList_clockText, (run_padded _ _).append_inj (run_padded _ _) rfl,
    (run_padded _ _).append_inj (run_padded _ _) rfl, padded_inj, padded_inj, padded_inj] at clock
  have day : t.day = u.day := Date.ofDay_injective date
  rw [t.seconds_eq, u.seconds_eq, day, plain.secondOfDay_eq, plain'.secondOfDay_eq, clock.1,
    clock.2.1, clock.2.2]

theorem clockText_lt_iff (plain : t.IsPlain) (plain' : u.IsPlain) :
    t.clockText.toList < u.clockText.toList ↔ t.secondOfDay < u.secondOfDay := by
  have hours := And.intro t.hour_lt u.hour_lt
  have minutes := And.intro t.minute_lt u.minute_lt
  have seconds := And.intro plain.second_lt plain'.second_lt
  rw [toList_clockText, toList_clockText, padded_append_lt_iff (by decide) (by omega) (by omega),
    padded_append_lt_iff (by decide) (by omega) (by omega),
    padded_lt_iff (by decide) (by omega) (by omega), plain.secondOfDay_eq, plain'.secondOfDay_eq]
  omega

theorem dateTimeText_lt_iff (years : t.date.HasPlainYear) (years' : u.date.HasPlainYear)
    (plain : t.IsPlain) (plain' : u.IsPlain) :
    t.dateTimeText < u.dateTimeText ↔ t.seconds < u.seconds := by
  have order := Date.text_append_lt_iff t.date_onCalendar u.date_onCalendar years years'
    (' ' :: t.clockText.toList) (' ' :: u.clockText.toList)
  rw [← toList_dateTimeText, ← toList_dateTimeText, List.cons_lt_cons_iff,
    clockText_lt_iff plain plain', date, date, Date.ofDay_before_iff,
    Date.ofDay_injective.eq_iff] at order
  simp only [Char.lt_irrefl, false_or, true_and] at order
  refine Iff.trans order ?_
  have := t.seconds_eq
  have := u.seconds_eq
  have := t.secondOfDay_lt
  have := u.secondOfDay_lt
  omega

theorem compare_dateTimeText (early : t.date.year ≤ 9999) (years : u.date.HasPlainYear)
    (plain : t.IsPlain) (plain' : u.IsPlain) :
    compare t.dateTimeText u.dateTimeText = compare t.seconds u.seconds := by
  by_cases negative : t.date.year < 0
  · have before : t.dateTimeText < u.dateTimeText := by
      have less := Date.text_append_lt_of_negative negative years (' ' :: t.clockText.toList)
        (' ' :: u.clockText.toList)
      rwa [← toList_dateTimeText, ← toList_dateTimeText] at less
    have day : t.day < u.day := by
      by_contra late
      have := Date.year_le (not_lt.mp late)
      have := years.1
      simp only [date] at *
      omega
    have second : t.seconds < u.seconds := by
      simp only [WallTime.day] at day
      omega
    exact compare_texts (iff_of_true before second)
      (iff_of_false (Std.Asymm.asymm _ _ before) second.asymm)
  · have years' : t.date.HasPlainYear := ⟨by omega, early⟩
    exact compare_texts (dateTimeText_lt_iff years' years plain plain')
      (dateTimeText_lt_iff years years' plain' plain)

end WallTime

end Analytics
