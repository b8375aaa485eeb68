import Analytics.Proofs.Number.Digits
import Analytics.Proofs.Sql.Template

/-!
Placeholders in the text of a template. Where every piece is tidy, the marks in the text are the
placeholders of the template, all outside quotes, and numbering turns the first one into `$1`, the
second one into `$2` and so on.
-/

namespace Analytics

open Quoting (isWord)

namespace IdentChar

theorem safe_ne {cs : List Char} {mark : Char} (safe : cs.all isSafe = true)
    (quoting : quoting.contains mark = true) : mark ∉ cs := by
  intro member
  have held := List.all_eq_true.mp safe mark member
  simp only [isSafe, quoting, Bool.not_true, Bool.and_false, Bool.false_eq_true] at held

end IdentChar

namespace Piece

theorem scanned {p : Piece} (tidy : p.IsTidy) :
    Quoting.after .outside p.chars = .outside ∧ Quoting.erase .outside p.chars = p.outline := by
  cases p with
  | text s =>
    have stays := Quoting.outside_stays (Quoting.words_free tidy rfl) (Quoting.words_free tidy rfl)
    exact ⟨Quoting.after_inside stays, Quoting.erase_outside stays⟩
  | name i =>
    have free : '"' ∉ i.text.toList := IdentChar.safe_ne i.safe rfl
    exact Quoting.between_marks (by decide) rfl rfl (Quoting.double_stays free)
  | literal s => exact Quoting.between_marks (by decide) rfl rfl (Quoting.single_stays tidy.1)
  | slot value => exact ⟨rfl, rfl⟩

theorem count_mark {p : Piece} (tidy : p.IsTidy) :
    p.chars.count '?' = p.value?.toList.length ∧ p.outline.count '?' = p.value?.toList.length := by
  cases p with
  | text s =>
    have free : '?' ∉ s.toList := Quoting.words_free tidy rfl
    exact ⟨List.count_eq_zero.mpr free, List.count_eq_zero.mpr free⟩
  | name i =>
    have free : '?' ∉ i.text.toList := IdentChar.safe_ne i.safe rfl
    have absent : '?' ∉ '"' :: (i.text.toList ++ ['"']) := by simp [free]
    exact ⟨List.count_eq_zero.mpr absent, rfl⟩
  | literal s =>
    have absent : '?' ∉ '\x27' :: (s.toList ++ ['\x27']) := by simp [tidy.2]
    exact ⟨List.count_eq_zero.mpr absent, rfl⟩
  | slot value => exact ⟨rfl, rfl⟩

end Piece

namespace Dialect

theorem numberFrom_pass {inQuotes : Bool} {cs : List Char} (next : Nat) (rest : List Char)
    (passed : ∀ c ∈ cs, c ≠ '\x27' ∧ (c = '?' → inQuotes = true)) :
    numberFrom inQuotes next (cs ++ rest) = cs ++ numberFrom inQuotes next rest := by
  induction cs with
  | nil => rfl
  | cons c cs ih =>
    have tail := ih fun d member => passed d (List.mem_cons_of_mem c member)
    obtain ⟨noQuote, noMark⟩ := passed c List.mem_cons_self
    have unmarked : ¬ (c = '?' && !inQuotes) = true := by
      simp only [Bool.and_eq_true, decide_eq_true_eq, Bool.not_eq_true', not_and]
      intro mark
      rw [noMark mark]
      decide
    rw [List.cons_append, numberFrom, if_neg noQuote, if_neg unmarked, tail]
    rfl

theorem numberFrom_free {cs : List Char} (next : Nat) (rest : List Char) (noQuote : '\x27' ∉ cs)
    (noMark : '?' ∉ cs) : numberFrom false next (cs ++ rest) = cs ++ numberFrom false next rest := by
  apply numberFrom_pass
  intro c member
  exact ⟨fun same => noQuote (same ▸ member), fun same => absurd (same ▸ member) noMark⟩

theorem numberFrom_literal {cs : List Char} (next : Nat) (rest : List Char) (noQuote : '\x27' ∉ cs) :
    numberFrom false next ('\x27' :: (cs ++ ['\x27']) ++ rest)
      = '\x27' :: (cs ++ ['\x27']) ++ numberFrom false next rest := by
  have inside : numberFrom true next (cs ++ ('\x27' :: rest))
      = cs ++ numberFrom true next ('\x27' :: rest) := by
    apply numberFrom_pass
    intro c member
    exact ⟨fun same => noQuote (same ▸ member), fun _ => rfl⟩
  have opened (cs : List Char) :
      numberFrom false next ('\x27' :: cs) = '\x27' :: numberFrom true next cs := rfl
  have closed : numberFrom true next ('\x27' :: rest) = '\x27' :: numberFrom false next rest := rfl
  rw [List.cons_append, List.append_assoc, List.singleton_append, opened, inside, closed,
    List.cons_append, List.append_assoc, List.singleton_append]

theorem numberFrom_piece {p : Piece} (next : Nat) (rest : List Char) (tidy : p.IsTidy)
    (fixed : p.value? = none) :
    numberFrom false next (p.chars ++ rest) = p.chars ++ numberFrom false next rest := by
  cases p with
  | text s =>
    exact numberFrom_free next rest (Quoting.words_free tidy rfl) (Quoting.words_free tidy rfl)
  | name i =>
    have noQuote : '\x27' ∉ i.text.toList := IdentChar.safe_ne i.safe rfl
    have noMark : '?' ∉ i.text.toList := IdentChar.safe_ne i.safe rfl
    have quoteAbsent : '\x27' ∉ '"' :: (i.text.toList ++ ['"']) := by simp [noQuote]
    have markAbsent : '?' ∉ '"' :: (i.text.toList ++ ['"']) := by simp [noMark]
    exact numberFrom_free next rest quoteAbsent markAbsent
  | literal s => exact numberFrom_literal next rest tidy.1
  | slot value => cases fixed

end Dialect

namespace Template

theorem tidy_cons {p : Piece} {t : Template} : IsTidy (p :: t) ↔ p.IsTidy ∧ IsTidy t :=
  List.forall_mem_cons

theorem tidy_append {t u : Template} : IsTidy (t ++ u) ↔ IsTidy t ∧ IsTidy u :=
  List.forall_mem_append

theorem scanned {t : Template} (tidy : t.IsTidy) :
    Quoting.after .outside t.chars = .outside ∧ Quoting.erase .outside t.chars = t.outline := by
  induction t with
  | nil => exact ⟨rfl, rfl⟩
  | cons p t ih =>
    obtain ⟨first, rest⟩ := tidy_cons.mp tidy
    have head := Piece.scanned first
    have tail := ih rest
    rw [chars_cons, Quoting.after_append, Quoting.erase_append, head.1, head.2, tail.2]
    exact ⟨tail.1, rfl⟩

theorem count_mark {t : Template} (tidy : t.IsTidy) :
    t.chars.count '?' = t.slots.length ∧ t.outline.count '?' = t.slots.length := by
  induction t with
  | nil => exact ⟨rfl, rfl⟩
  | cons p t ih =>
    obtain ⟨first, rest⟩ := tidy_cons.mp tidy
    have head := Piece.count_mark first
    have tail := ih rest
    rw [chars_cons, outline_cons, slots_cons, List.count_append, List.count_append,
      List.length_append, head.1, head.2, tail.1, tail.2]
    exact ⟨rfl, rfl⟩

theorem numbered_fixed {p : Piece} (write : Piece → List Char) (next : Nat) (t : Template)
    (fixed : p.value? = none) : numbered write next (p :: t) = write p ++ numbered write next t := by
  cases p with
  | slot value => cases fixed
  | _ => rfl

theorem numberFrom_chars {t : Template} (next : Nat) (tidy : t.IsTidy) :
    Dialect.numberFrom false next t.chars = t.numbered Piece.chars next := by
  induction t generalizing next with
  | nil => rfl
  | cons p t ih =>
    obtain ⟨first, rest⟩ := tidy_cons.mp tidy
    cases fixed : p.value? with
    | none =>
      rw [chars_cons, Dialect.numberFrom_piece next (chars t) first fixed, ih next rest,
        numbered_fixed Piece.chars next t fixed]
    | some value =>
      cases p with
      | slot value =>
        have marked (cs : List Char) : Dialect.numberFrom false next ('?' :: cs)
            = '$' :: (Nat.toDigits 10 next ++ Dialect.numberFrom false (next + 1) cs) := rfl
        rw [chars_cons, Piece.chars, List.singleton_append, marked, ih (next + 1) rest, numbered]
      | _ => cases fixed

end Template

/-- What stands behind the dollar signs of a text, as far as it is digits. -/
def dollarDigits : List Char → List (List Char)
  | [] => []
  | c :: rest =>
    if c = '$' then rest.takeWhile Digits.isDigit :: dollarDigits rest else dollarDigits rest

theorem dollarDigits_append {cs : List Char} (rest : List Char) (free : '$' ∉ cs) :
    dollarDigits (cs ++ rest) = dollarDigits rest := by
  induction cs with
  | nil => rfl
  | cons c cs ih =>
    have other : c ≠ '$' := fun same => free (same ▸ List.mem_cons_self)
    have tail := ih fun member => free (List.mem_cons_of_mem c member)
    simp only [List.cons_append, dollarDigits, other, if_false, tail]

theorem takeWhile_nil {cs : List Char} (noDigit : ∀ c ∈ cs.head?, Digits.isDigit c = false) :
    cs.takeWhile Digits.isDigit = [] := by
  cases cs with
  | nil => rfl
  | cons c cs => rw [List.takeWhile_cons, noDigit c rfl]; rfl

namespace Template

/-- Whether no digit stands right behind a placeholder, where it would join the number. -/
def IsSpaced : Template → Prop
  | [] => True
  | .slot _ :: rest => (∀ c ∈ (outline rest).head?, Digits.isDigit c = false) ∧ IsSpaced rest
  | _ :: rest => IsSpaced rest

theorem erase_numbered {t : Template} (next : Nat) (tidy : t.IsTidy) :
    Quoting.after .outside (t.numbered Piece.chars next) = .outside ∧
      Quoting.erase .outside (t.numbered Piece.chars next) = t.numbered Piece.outline next := by
  induction t generalizing next with
  | nil => exact ⟨rfl, rfl⟩
  | cons p t ih =>
    obtain ⟨first, rest⟩ := tidy_cons.mp tidy
    cases fixed : p.value? with
    | none =>
      have head := Piece.scanned first
      have tail := ih next rest
      rw [numbered_fixed _ next t fixed, numbered_fixed _ next t fixed, Quoting.after_append,
        Quoting.erase_append, head.1, head.2, tail.2]
      exact ⟨tail.1, rfl⟩
    | some value =>
      cases p with
      | slot value =>
        have tail := ih (next + 1) rest
        have stays : ∀ c ∈ '$' :: Nat.toDigits 10 next, Quoting.outside.step c = .outside :=
          Quoting.outside_stays (by simp [toDigits_free next (c := '\x27') rfl])
            (by simp [toDigits_free next (c := '"') rfl])
        rw [numbered, numbered, ← List.cons_append, Quoting.after_append, Quoting.erase_append,
          Quoting.after_inside stays, Quoting.erase_outside stays, tail.2]
        exact ⟨tail.1, rfl⟩
      | _ => cases fixed

theorem outline_dollar_free {p : Piece} (tidy : p.IsTidy) : '$' ∉ p.outline := by
  cases p with
  | text s => exact Quoting.words_free tidy rfl
  | name i => simp [Piece.outline]
  | literal s => simp [Piece.outline]
  | slot value => simp [Piece.outline]

theorem head_numbered {t : Template} (next : Nat)
    (noDigit : ∀ c ∈ (outline t).head?, Digits.isDigit c = false) :
    ∀ c ∈ (t.numbered Piece.outline next).head?, Digits.isDigit c = false := by
  induction t with
  | nil => exact noDigit
  | cons p t ih =>
    cases fixed : p.value? with
    | none =>
      rw [numbered_fixed _ next t fixed]
      rw [outline_cons] at noDigit
      cases first : p.outline with
      | nil =>
        rw [first] at noDigit
        exact ih noDigit
      | cons d ds =>
        rw [first] at noDigit
        exact noDigit
    | some value =>
      cases p with
      | slot value =>
        intro c member
        rw [numbered, List.head?_cons, Option.mem_some_iff] at member
        rw [← member]
        rfl
      | _ => cases fixed

/-- Outside quotes, a numbered template has the numbers from `next` on behind its dollar signs. -/
theorem dollarDigits_numbered {t : Template} (next : Nat) (tidy : t.IsTidy) (spaced : t.IsSpaced) :
    dollarDigits (t.numbered Piece.outline next)
      = (List.range' next t.slots.length).map (Nat.toDigits 10) := by
  induction t generalizing next with
  | nil => rfl
  | cons p t ih =>
    obtain ⟨first, rest⟩ := tidy_cons.mp tidy
    cases fixed : p.value? with
    | none =>
      have tail : IsSpaced t := by
        cases p with
        | slot value => cases fixed
        | _ => exact spaced
      rw [numbered_fixed _ next t fixed, dollarDigits_append _ (outline_dollar_free first),
        slots_cons, fixed]
      exact ih next rest tail
    | some value =>
      cases p with
      | slot value =>
        have behind := head_numbered (next + 1) spaced.1
        have run : (Nat.toDigits 10 next ++ numbered Piece.outline (next + 1) t).takeWhile
            Digits.isDigit = Nat.toDigits 10 next := by
          rw [List.takeWhile_append_of_pos fun c member => isDigit_of_toDigits member,
            takeWhile_nil behind, List.append_nil]
        rw [numbered, dollarDigits, if_pos rfl, run,
          dollarDigits_append _ (toDigits_free next rfl), ih (next + 1) rest spaced.2, slots_cons]
        rfl
      | _ => cases fixed

end Template

end Analytics
