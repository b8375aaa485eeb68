import Analytics.Json.Printer
import Analytics.Proofs.Json.Numbers
import Analytics.Proofs.Number.Shortest
import Analytics.Proofs.Text.Blanks
import Mathlib.Data.List.TakeWhile

/-!
Numbers as text. What is printed for a number, whole or floating, is read as the number; nothing
that is read as a number holds a comma.
-/

namespace Analytics

namespace Digits

variable {cs rest : List Char}

theorem Run.append {ds : List Char} (first : Run cs) (second : Run ds) : Run (cs ++ ds) := by
  intro c member
  rcases List.mem_append.mp member with member | member
  · exact first c member
  · exact second c member

theorem run_zeros (n : Nat) : Run (List.replicate n '0') := by
  intro c member
  rw [List.eq_of_mem_replicate member]
  rfl

theorem Run.starts (run : Run cs) (some : cs ≠ []) (rest : List Char) :
    ∃ c ∈ (cs ++ rest).head?, isDigit c = true := by
  obtain ⟨c, cs, rfl⟩ := List.exists_cons_of_ne_nil some
  exact ⟨c, rfl, run c List.mem_cons_self⟩

theorem Run.takeWhile_append (run : Run cs) (stop : ∀ c ∈ rest.head?, isDigit c = false) :
    (cs ++ rest).takeWhile isDigit = cs := by
  rw [List.takeWhile_append_of_pos run]
  cases rest with
  | nil => exact List.append_nil cs
  | cons c rest => rw [List.takeWhile_cons_of_neg (by simp [stop c rfl]), List.append_nil]

theorem Run.dropWhile_append (run : Run cs) (stop : ∀ c ∈ rest.head?, isDigit c = false) :
    (cs ++ rest).dropWhile isDigit = rest := by
  rw [List.dropWhile_append_of_pos run]
  cases rest with
  | nil => rfl
  | cons c rest => exact List.dropWhile_cons_of_neg (by simp [stop c rfl])

theorem splitSign_digit (starts : ∃ c ∈ cs.head?, isDigit c = true) :
    splitSign cs = (false, cs) := by
  obtain ⟨c, first, digit⟩ := starts
  unfold splitSign
  split
  · cases first
    cases digit
  · cases first
    cases digit
  · rfl

/-- Digits behind a sign, or without one, are read as their number with the sign. -/
theorem toInt_run {ds : List Char} {negative : Bool} (sign : splitSign cs = (negative, ds))
    (run : Run ds) (some_ : ds ≠ []) :
    toInt? cs = some (if negative then -(toNat ds : Int) else toNat ds) := by
  have full : ds.isEmpty = false := List.isEmpty_eq_false_iff.mpr some_
  have all : ds.all isDigit = true := List.all_eq_true.mpr run
  simp only [toInt?, sign, full, all, Bool.not_true, Bool.or_self, Bool.false_eq_true, if_false]

theorem toInt_toString (i : Int) : toInt? (toString i).toList = some i := by
  have run := run_toDigits i.natAbs
  have some_ : Nat.toDigits 10 i.natAbs ≠ [] := Nat.toDigits_ne_nil
  rw [Json.toList_toString]
  split_ifs with negative
  · have sign : splitSign ('-' :: Nat.toDigits 10 i.natAbs)
        = (true, Nat.toDigits 10 i.natAbs) := rfl
    rw [toInt_run sign run some_, toNat_toDigits, if_pos rfl]
    congr 1
    omega
  · have starts := run.starts some_ []
    rw [List.append_nil] at starts
    rw [toInt_run (splitSign_digit starts) run some_, toNat_toDigits, if_neg Bool.false_ne_true]
    congr 1
    omega

end Digits

open Digits (Run isDigit run_toDigits run_zeros toNat_toDigits toNat_append toNat_zeros)

namespace WrittenDecimal

variable {whole fraction tail : List Char}

/-- The rational number that a written decimal stands for. -/
def value (w : WrittenDecimal) : ℚ := w.digits * 10 ^ w.power

theorem ofText_bare (run : Run whole) (some : whole ≠ [])
    (stop : ∀ c ∈ tail.head?, isDigit c = false ∧ c ≠ '.') :
    ofText? (whole ++ tail) = (exponent? tail).map fun e => ⟨whole, [], e⟩ := by
  have ends : ∀ c ∈ tail.head?, isDigit c = false := fun c first => (stop c first).1
  have full : whole.isEmpty = false := List.isEmpty_eq_false_iff.mpr some
  unfold ofText?
  rw [run.takeWhile_append ends, run.dropWhile_append ends]
  cases tail with
  | nil => simp [full]
  | cons c tail =>
    have noPoint : c ≠ '.' := (stop c rfl).2
    simp [full, noPoint]

theorem ofText_point (run : Run whole) (some : whole ≠ []) (run' : Run fraction)
    (stop : ∀ c ∈ tail.head?, isDigit c = false) :
    ofText? (whole ++ '.' :: (fraction ++ tail))
      = (exponent? tail).map fun e => ⟨whole, fraction, e⟩ := by
  have point : ∀ c ∈ ('.' :: (fraction ++ tail)).head?, isDigit c = false := by
    rintro c ⟨⟩
    rfl
  have full : whole.isEmpty = false := List.isEmpty_eq_false_iff.mpr some
  unfold ofText?
  rw [run.takeWhile_append point, run.dropWhile_append point]
  simp only [full, Bool.false_and, Bool.false_eq_true, if_false, run'.takeWhile_append stop,
    run'.dropWhile_append stop]

end WrittenDecimal

namespace DecimalLayout

open WrittenDecimal (ofText? exponent? ofText_bare ofText_point)

theorem zeros_chars (n : Nat) : (zeros n).toList = List.replicate n '0' := String.toList_ofList

/-- How a text is read back: as a written decimal of the same value, whose power is next to the
own. -/
structure Reads (cs : List Char) (d : Decimal) (w : WrittenDecimal) : Prop where
  starts : ∃ c ∈ cs.head?, isDigit c = true
  read : ofText? cs = some w
  value : w.value = d.value
  near : w.power.natAbs ≤ d.power.natAbs + 1

theorem value_of_digits {d : Decimal} {w : WrittenDecimal} (digits : w.digits = d.digits)
    (power : w.power = d.power) : w.value = d.value ∧ w.power.natAbs ≤ d.power.natAbs + 1 := by
  rw [WrittenDecimal.value, digits, power, Decimal.value]
  exact ⟨rfl, Nat.le_succ _⟩

/-- The value stays as it is when zeros are put behind the digits and the power is less by them. -/
theorem value_of_zeros {d : Decimal} {w : WrittenDecimal} (count : Nat)
    (digits : w.digits = d.digits * 10 ^ count) (power : w.power = d.power - count) :
    w.value = d.value := by
  rw [WrittenDecimal.value, digits, power, Decimal.value, zpow_sub₀ (by norm_num), zpow_natCast]
  push_cast
  rw [mul_assoc, mul_div_cancel₀ _ (pow_ne_zero count (by norm_num))]

theorem Reads.of_point {cs whole fraction tail : List Char} {d : Decimal} {e : Int}
    (text : cs = whole ++ '.' :: (fraction ++ tail)) (run : Run whole) (some_ : whole ≠ [])
    (run' : Run fraction) (stop : ∀ c ∈ tail.head?, isDigit c = false)
    (read : exponent? tail = some e)
    (kept : WrittenDecimal.value ⟨whole, fraction, e⟩ = d.value ∧
      (e - fraction.length).natAbs ≤ d.power.natAbs + 1) :
    Reads cs d ⟨whole, fraction, e⟩ := by
  refine ⟨?_, ?_, kept.1, kept.2⟩
  · rw [text]
    exact run.starts some_ _
  · rw [text, ofText_point run some_ run' stop, read]
    rfl

theorem Reads.of_places {cs whole fraction : List Char} {d : Decimal}
    (text : cs = whole ++ '.' :: fraction) (run : Run whole) (some_ : whole ≠ [])
    (run' : Run fraction) (number : Digits.toNat (whole ++ fraction) = d.digits)
    (places : -(fraction.length : Int) = d.power) : Reads cs d ⟨whole, fraction, 0⟩ := by
  have power : WrittenDecimal.power ⟨whole, fraction, 0⟩ = d.power := by
    rw [WrittenDecimal.power, zero_sub, places]
  rw [← List.append_nil fraction] at text
  exact .of_point text run some_ run' nofun rfl (value_of_digits number power)

theorem positional_read (d : Decimal) : ∃ w, Reads (positional d).toList d w := by
  obtain ⟨n, power⟩ := d
  have run := run_toDigits n
  have some_ : Nat.toDigits 10 n ≠ [] := Nat.toDigits_ne_nil
  cases power with
  | ofNat k =>
    -- The zeros in front of the point and the one behind it are digits like the others.
    have text : (positional ⟨n, .ofNat k⟩).toList
        = (Nat.toDigits 10 n ++ List.replicate k '0') ++ '.' :: (['0'] ++ []) := by
      simp [positional, String.toList_append, zeros_chars]
    have number : Digits.toNat (Nat.toDigits 10 n ++ List.replicate k '0' ++ ['0'])
        = n * 10 ^ (k + 1) := by
      rw [List.append_assoc, toNat_append, toNat_toDigits, toNat_zeros, List.length_append,
        List.length_replicate]
      rfl
    have power : WrittenDecimal.power ⟨Nat.toDigits 10 n ++ List.replicate k '0', ['0'], 0⟩
        = (k : Int) - (k + 1 : Nat) := by
      rw [WrittenDecimal.power, List.length_singleton]
      change (0 : Int) - _ = _
      omega
    have near : ((0 : Int) - (['0'] : List Char).length).natAbs ≤ (Int.ofNat k).natAbs + 1 :=
      Nat.le_add_left _ _
    exact ⟨_, .of_point text (run.append (run_zeros k)) (List.append_ne_nil_of_left_ne_nil some_ _)
      (run_zeros 1) nofun rfl ⟨value_of_zeros (k + 1) number power, near⟩⟩
  | negSucc k =>
    by_cases few : (Nat.toDigits 10 n).length ≤ k + 1
    · have text : (positional ⟨n, .negSucc k⟩).toList = ['0'] ++ '.' ::
          (List.replicate (k + 1 - (Nat.toDigits 10 n).length) '0' ++ Nat.toDigits 10 n) := by
        simp [positional, few, String.toList_append, zeros_chars]
      have number (zeros : Nat) : Digits.toNat (['0'] ++ (List.replicate zeros '0'
          ++ Nat.toDigits 10 n)) = n := by
        have more : ['0'] ++ (List.replicate zeros '0' ++ Nat.toDigits 10 n)
            = List.replicate (zeros + 1) '0' ++ Nat.toDigits 10 n := rfl
        rw [more, toNat_zeros, toNat_toDigits]
      refine ⟨_, .of_places text (run_zeros 1) (List.cons_ne_nil _ _) ((run_zeros _).append run)
        (number _) ?_⟩
      rw [List.length_append, List.length_replicate]
      change _ = Int.negSucc k
      omega
    · have text : (positional ⟨n, .negSucc k⟩).toList
          = (Nat.toDigits 10 n).take ((Nat.toDigits 10 n).length - (k + 1)) ++ '.' ::
            (Nat.toDigits 10 n).drop ((Nat.toDigits 10 n).length - (k + 1)) := by
        simp [positional, few, String.toList_append]
      have front : (Nat.toDigits 10 n).take ((Nat.toDigits 10 n).length - (k + 1)) ≠ [] := by
        rw [Ne, List.take_eq_nil_iff]
        rintro (none | none)
        · omega
        · exact some_ none
      refine ⟨_, .of_places text (fun c member => run c (List.mem_of_mem_take member)) front
        (fun c member => run c (List.mem_of_mem_drop member)) ?_ ?_⟩
      · rw [List.take_append_drop, toNat_toDigits]
      · rw [List.length_drop]
        change _ = Int.negSucc k
        omega

theorem exponentText_chars (width : Nat) (e : Int) : (exponentText width e).toList
    = 'e' :: (if e < 0 then '-' else '+') :: (padded width e.natAbs).toList := by
  rw [toList_padded]
  unfold exponentText
  split_ifs <;> simp [String.toList_append, zeros_chars]

theorem exponent_read (width : Nat) (e : Int) :
    exponent? (exponentText width e).toList = some e := by
  have run := run_padded width e.natAbs
  have number := toNat_padded width e.natAbs
  have some_ : (padded width e.natAbs).toList ≠ [] := by
    obtain ⟨c, cs, shape, -⟩ := exists_padded_cons width e.natAbs
    rw [shape]
    exact List.cons_ne_nil c cs
  have marked (rest : List Char) : exponent? ('e' :: rest) = Digits.toInt? rest := rfl
  rw [exponentText_chars, marked]
  split_ifs with negative
  · have sign : Digits.splitSign ('-' :: (padded width e.natAbs).toList)
        = (true, (padded width e.natAbs).toList) := rfl
    rw [Digits.toInt_run sign run some_, number, if_pos rfl]
    congr 1
    omega
  · have sign : Digits.splitSign ('+' :: (padded width e.natAbs).toList)
        = (false, (padded width e.natAbs).toList) := rfl
    rw [Digits.toInt_run sign run some_, number, if_neg Bool.false_ne_true]
    congr 1
    omega

theorem withExponent_read (layout : DecimalLayout) (d : Decimal) :
    ∃ w, Reads (layout.withExponent d).toList d w := by
  have read := exponent_read layout.exponentWidth d.scientific
  have stop : ∀ c ∈ (exponentText layout.exponentWidth d.scientific).toList.head?,
      isDigit c = false ∧ c ≠ '.' := by
    rw [exponentText_chars]
    rintro c ⟨⟩
    decide
  have run := run_toDigits d.digits
  have number := toNat_toDigits d.digits
  have scientific : d.scientific = d.power + ((Nat.toDigits 10 d.digits).length : Int) - 1 := rfl
  unfold withExponent
  dsimp only
  generalize exponentText layout.exponentWidth d.scientific = tail at *
  have ends : ∀ c ∈ tail.toList.head?, isDigit c = false := fun c first => (stop c first).1
  -- One digit stands alone or before `.0`; more have a point behind the first.
  split
  · rename_i none
    exact absurd none Nat.toDigits_ne_nil
  · rename_i c single
    rw [single] at run number scientific
    have power : d.scientific = d.power := by
      rw [scientific, List.length_singleton]
      omega
    split_ifs with point
    · have text : (String.ofList [c] ++ ".0" ++ tail).toList
          = [c] ++ '.' :: (['0'] ++ tail.toList) := by
        simp [String.toList_append]
      have less : WrittenDecimal.power ⟨[c], ['0'], d.scientific⟩ = d.power - (1 : Nat) := by
        rw [WrittenDecimal.power, power]
        rfl
      have shifted : Digits.toNat ([c] ++ ['0']) = d.digits * 10 ^ 1 := by
        rw [toNat_append, number]
        rfl
      have near : (d.scientific - (['0'] : List Char).length).natAbs ≤ d.power.natAbs + 1 := by
        rw [power, List.length_singleton]
        omega
      exact ⟨_, .of_point text run (List.cons_ne_nil _ _) (run_zeros 1) ends read
        ⟨value_of_zeros 1 shifted less, near⟩⟩
    · have text : (String.ofList [c] ++ "" ++ tail).toList = [c] ++ tail.toList := by
        simp [String.toList_append]
      have same : WrittenDecimal.power ⟨[c], [], d.scientific⟩ = d.power := by
        rw [WrittenDecimal.power, power]
        exact Int.sub_zero _
      obtain ⟨value, near⟩ := value_of_digits (w := ⟨[c], [], d.scientific⟩) number same
      refine ⟨⟨[c], [], d.scientific⟩, ?_, ?_, value, near⟩
      · rw [text]
        exact run.starts (List.cons_ne_nil _ _) _
      · rw [text, ofText_bare run (List.cons_ne_nil _ _) stop, read]
        rfl
  · rename_i c rest _ shape
    rw [shape] at run number scientific
    have text : (String.ofList (c :: '.' :: rest) ++ tail).toList
        = [c] ++ '.' :: (rest ++ tail.toList) := by
      simp [String.toList_append]
    have same : WrittenDecimal.power ⟨[c], rest, d.scientific⟩ = d.power := by
      rw [WrittenDecimal.power, scientific, List.length_cons]
      push_cast
      ring
    obtain ⟨first, later⟩ := List.forall_mem_cons.mp run
    exact ⟨_, .of_point text (List.forall_mem_singleton.mpr first) (List.cons_ne_nil _ _) later ends
      read (value_of_digits number same)⟩

theorem render_read (layout : DecimalLayout) (d : Decimal) :
    ∃ w, Reads (layout.render d).toList d w := by
  unfold render
  split_ifs
  · exact positional_read d
  · exact withExponent_read layout d

end DecimalLayout

namespace Binary64

open DecimalLayout (Reads render_read)

variable {cs : List Char} {s : String} {x : Binary64}

theorem lowerAscii_digit {c : Char} (digit : isDigit c = true) : lowerAscii c = c := by
  have bounds := Digits.bounds digit
  have small : ('A' ≤ c && c ≤ 'Z') = false := by
    simp only [Bool.and_eq_false_iff, decide_eq_false_iff_not, Char.le_def, UInt32.le_iff_toNat_le]
    left
    change ¬65 ≤ c.toNat
    omega
  rw [lowerAscii, small]
  rfl

theorem ne_word (word : String) (starts : ∃ c ∈ cs.head?, isDigit c = true)
    (letters : word.toList.head?.any isDigit = false) :
    String.ofList (cs.map lowerAscii) ≠ word := by
  obtain ⟨c, first, digit⟩ := starts
  rintro rfl
  rw [String.toList_ofList, List.head?_map, Option.mem_def.mp first] at letters
  have other : isDigit (lowerAscii c) = false := letters
  rw [lowerAscii_digit digit, digit] at other
  cases other

theorem ofText_signed {w : WrittenDecimal} (negative : Bool)
    (starts : ∃ c ∈ cs.head?, isDigit c = true) (read : WrittenDecimal.ofText? cs = some w)
    (text : s.toList = if negative then '-' :: cs else cs) :
    ofText? s = some (ofWritten negative w) := by
  have sign : Digits.splitSign s.toList = (negative, cs) := by
    rw [text]
    cases negative with
    | true => rfl
    | false => exact Digits.splitSign_digit starts
  have inf := ne_word "inf" starts (by decide)
  have infinity := ne_word "infinity" starts (by decide)
  have nan := ne_word "nan" starts (by decide)
  unfold ofText?
  simp only [sign, inf, infinity, nan, decide_false, Bool.or_self, Bool.false_eq_true, if_false,
    read, Option.map_some]

theorem ofWritten_shortest {negative : Bool} {m : Nat} {e : Int} {w : WrittenDecimal}
    (proper : (finite negative m e).IsProper) (some : m ≠ 0)
    (reads : Reads cs (Decimal.shortest m e) w) : ofWritten negative w = .finite negative m e := by
  obtain ⟨least, most⟩ := Decimal.shortest_power proper some
  have near := reads.near
  have counted : w.digits ≠ 0 := by
    intro none
    have positive := Decimal.shortest_positive proper some
    rw [← reads.value, WrittenDecimal.value, none, Nat.cast_zero, zero_mul] at positive
    exact lt_irrefl _ positive
  have small : ¬hugeExponent < w.power := by
    rw [hugeExponent]
    omega
  have large : ¬w.power < -hugeExponent := by
    rw [hugeExponent]
    omega
  rw [ofWritten, if_neg counted, if_neg small, if_neg large, ofDecimal]
  apply round_held (Fraction.scaleTen_positive Nat.one_pos _) proper some
  rw [Fraction.scaleTen_whole_size]
  change (Decimal.intervalOf m e).Holds w.value
  rw [reads.value]
  exact Decimal.shortest_held proper some

theorem ofText_floatText (finite : x.isFinite = true) (proper : x.IsProper) :
    ofText? (Json.floatText x) = some x := by
  cases x with
  | finite negative m e =>
    by_cases none : m = 0
    · subst none
      rcases proper with normal | ⟨-, rfl⟩
      · exact absurd normal.least (by decide)
      · cases negative <;> decide +kernel
    · obtain ⟨w, reads⟩ := render_read Json.floatLayout (Decimal.shortest m e)
      have text : (Json.floatText (.finite negative m e)).toList
          = if negative then '-' :: (Json.floatLayout.render (Decimal.shortest m e)).toList
            else (Json.floatLayout.render (Decimal.shortest m e)).toList := by
        rw [Json.floatText, if_neg none, String.toList_append]
        cases negative <;> rfl
      rw [ofText_signed negative reads.starts reads.read text, ofWritten_shortest proper none reads]
  | infinite negative => cases finite
  | nan => cases finite

theorem ofText_toString (i : Int) : ofText? (toString i) = some (ofInt i) := by
  have run := run_toDigits i.natAbs
  have some_ : Nat.toDigits 10 i.natAbs ≠ [] := Nat.toDigits_ne_nil
  have stop : ∀ c ∈ ([] : List Char).head?, isDigit c = false ∧ c ≠ '.' := nofun
  have starts := run.starts some_ []
  have read := WrittenDecimal.ofText_bare run some_ stop
  rw [List.append_nil] at starts read
  have text : (toString i).toList = if decide (i < 0) then '-' :: Nat.toDigits 10 i.natAbs
      else Nat.toDigits 10 i.natAbs := by
    rw [Json.toList_toString]
    simp only [decide_eq_true_eq]
  rw [ofText_signed (decide (i < 0)) starts read text]
  have digits : WrittenDecimal.digits ⟨Nat.toDigits 10 i.natAbs, [], 0⟩ = i.natAbs := by
    rw [WrittenDecimal.digits, List.append_nil, toNat_toDigits]
  have power : WrittenDecimal.power ⟨Nat.toDigits 10 i.natAbs, [], 0⟩ = 0 := rfl
  rw [ofWritten, digits, power, ofInt, ofDecimal]
  by_cases none : i = 0
  · subst none
    rfl
  · have counted : i.natAbs ≠ 0 := by omega
    have whole : Fraction.scaleTen (i.natAbs, 1) 0 = (i.natAbs, 1) :=
      Prod.ext (Nat.mul_one i.natAbs) rfl
    have inside : ¬hugeExponent < 0 ∧ ¬(0 : Int) < -hugeExponent := by decide
    rw [if_neg counted, if_neg inside.1, if_neg inside.2, whole]

end Binary64

/-! ### The letters of numbers -/

theorem Digits.mem_splitSign {cs : List Char} {c : Char} (member : c ∈ cs) :
    c ∈ ['+', '-'] ∨ c ∈ (Digits.splitSign cs).2 := by
  unfold Digits.splitSign
  split
  · rcases List.mem_cons.mp member with rfl | later
    · exact .inl (by decide)
    · exact .inr later
  · rcases List.mem_cons.mp member with rfl | later
    · exact .inl (by decide)
    · exact .inr later
  · exact .inr member

theorem Digits.mem_of_toInt {cs : List Char} {i : Int} (read : Digits.toInt? cs = some i) {c : Char}
    (member : c ∈ cs) : isDigit c = true ∨ c ∈ ['+', '-'] := by
  rcases Digits.mem_splitSign member with sign | body
  · exact .inr sign
  · unfold Digits.toInt? at read
    dsimp only at read
    rw [Option.ite_none_left_eq_some] at read
    have all : (Digits.splitSign cs).2.all isDigit = true := by
      have passes := read.1
      simp only [Bool.or_eq_true, not_or, Bool.not_eq_true', Bool.not_eq_false] at passes
      exact passes.2
    exact .inl (List.all_eq_true.mp all c body)

namespace WrittenDecimal

theorem mem_of_exponent {cs : List Char} {e : Int} (read : exponent? cs = some e) {c : Char}
    (member : c ∈ cs) : isDigit c = true ∨ c ∈ ['e', 'E', '+', '-'] := by
  cases cs with
  | nil => cases member
  | cons d rest =>
    rw [exponent?] at read
    split_ifs at read with marked
    rcases List.mem_cons.mp member with rfl | later
    · rw [Bool.or_eq_true, decide_eq_true_eq, decide_eq_true_eq] at marked
      rcases marked with rfl | rfl <;> exact .inr (by decide)
    · exact (Digits.mem_of_toInt read later).imp_right fun sign =>
        List.mem_cons_of_mem _ (List.mem_cons_of_mem _ sign)

theorem mem_of_read {cs : List Char} {w : WrittenDecimal} (read : ofText? cs = some w) {c : Char}
    (member : c ∈ cs) : isDigit c = true ∨ c ∈ ['.', 'e', 'E', '+', '-'] := by
  have later {rest : List Char} {e : Int} (read : exponent? rest = some e) (member : c ∈ rest) :
      isDigit c = true ∨ c ∈ ['.', 'e', 'E', '+', '-'] :=
    (mem_of_exponent read member).imp_right (List.mem_cons_of_mem _)
  rw [← List.takeWhile_append_dropWhile (p := isDigit) (l := cs)] at member
  rcases List.mem_append.mp member with front | back
  · exact .inl (List.mem_takeWhile_imp front)
  unfold ofText? at read
  dsimp only at read
  split at read
  · rename_i rest shape
    split_ifs at read
    obtain ⟨e, found, -⟩ := Option.map_eq_some_iff.mp read
    rw [shape] at back
    rcases List.mem_cons.mp back with rfl | back
    · exact .inr (by decide)
    rw [← List.takeWhile_append_dropWhile (p := isDigit) (l := rest)] at back
    rcases List.mem_append.mp back with digits | back
    · exact .inl (List.mem_takeWhile_imp digits)
    · exact later found back
  · split_ifs at read
    obtain ⟨e, found, -⟩ := Option.map_eq_some_iff.mp read
    exact later found back

end WrittenDecimal

namespace Binary64

variable {s : String} {x : Binary64}

/-- The characters of numbers other than digits, in lower case. -/
def marks : List Char := ['.', 'e', '+', '-', 'i', 'n', 'f', 't', 'y', 'a']

def IsLetter (c : Char) : Prop := isDigit c = true ∨ lowerAscii c ∈ marks

theorem isLetter_of_read (read : ofText? s = some x) {c : Char} (member : c ∈ s.toList) :
    IsLetter c := by
  rcases Digits.mem_splitSign member with sign | body
  · rcases List.mem_pair.mp sign with rfl | rfl <;> exact .inr (by decide)
  have letters {word : String}
      (same : String.ofList ((Digits.splitSign s.toList).2.map lowerAscii) = word)
      (known : word.toList.all marks.contains = true) : IsLetter c := by
    apply Or.inr
    rw [← List.contains_iff_mem]
    apply List.all_eq_true.mp known
    rw [← same, String.toList_ofList]
    exact List.mem_map_of_mem body
  unfold ofText? at read
  dsimp only at read
  split_ifs at read with infinite nan
  · rw [Bool.or_eq_true, decide_eq_true_eq, decide_eq_true_eq] at infinite
    rcases infinite with word | word
    · exact letters word (by decide)
    · exact letters word (by decide)
  · exact letters nan (by decide)
  · obtain ⟨w, written, -⟩ := Option.map_eq_some_iff.mp read
    refine (WrittenDecimal.mem_of_read written body).imp_right fun mark => ?_
    have lowered : ['.', 'e', 'E', '+', '-'].all (fun d => marks.contains (lowerAscii d))
        = true := by decide
    exact List.contains_iff_mem.mp (List.all_eq_true.mp lowered c mark)

theorem IsLetter.seen {c : Char} (letter : IsLetter c) : Text.isBlank c = false := by
  rcases letter with digit | mark
  · exact isBlank_digit digit
  by_cases capital : ('A' ≤ c && c ≤ 'Z') = true
  · have bounds : 65 ≤ c.toNat ∧ c.toNat ≤ 90 := by
      simp only [Bool.and_eq_true, decide_eq_true_eq, Char.le_def, UInt32.le_iff_toNat_le]
        at capital
      exact capital
    simp only [Text.isBlank, Bool.or_eq_false_iff, Bool.and_eq_false_iff, decide_eq_false_iff_not]
    omega
  · have seen : marks.any Text.isBlank = false := by decide
    rw [lowerAscii, if_neg capital] at mark
    rw [List.any_eq_false] at seen
    exact Bool.eq_false_iff.mpr (seen c mark)

theorem trim_of_read (read : ofText? s = some x) : Text.trim s = s := by
  have seen {c : Char} (member : c ∈ s.toList) : Text.isBlank c = false :=
    (isLetter_of_read read member).seen
  have tight : Text.trimChars s.toList = s.toList :=
    Text.trimChars_tight (fun c first => seen (List.mem_of_head? first))
      fun c last => seen (List.mem_of_getLast? last)
  rw [Text.trim, tight, String.ofList_toList]

theorem commaless_of_read (read : ofText? s = some x) : ',' ∉ s.toList := by
  have comma : ¬IsLetter ',' := by
    unfold IsLetter
    decide
  exact fun member => comma (isLetter_of_read read member)

theorem commaless_of_trim (read : ofText? (Text.trim s) = some x) : ',' ∉ s.toList := by
  intro member
  apply commaless_of_read read
  rw [Text.trim, String.toList_ofList]
  exact Text.mem_trimChars (by decide) member

end Binary64

end Analytics
