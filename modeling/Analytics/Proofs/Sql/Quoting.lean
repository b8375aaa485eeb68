import Analytics.Sql.Dialect

/-!
Quotes in statements. A reader of a statement is outside quotes, in a text between single quotes, or
in a name between double quotes; a quote of the other kind does not end what is between quotes.
-/

namespace Analytics

inductive Quoting where
  | outside
  | single
  | double
  deriving DecidableEq, Repr

namespace Quoting

def step : Quoting → Char → Quoting
  | outside, c => if c = '\x27' then single else if c = '"' then double else outside
  | single, c => if c = '\x27' then outside else single
  | double, c => if c = '"' then outside else double

/-- Where a reader is behind a text. -/
def after (q : Quoting) (cs : List Char) : Quoting := cs.foldl step q

/-- A text without what stands between quotes. The quotes stay. -/
def erase : Quoting → List Char → List Char
  | _, [] => []
  | q, c :: rest =>
    if q = outside ∨ q.step c = outside then c :: erase (q.step c) rest else erase (q.step c) rest

theorem after_cons (q : Quoting) (c : Char) (cs : List Char) :
    after q (c :: cs) = after (q.step c) cs := rfl

theorem after_append (q : Quoting) (cs ds : List Char) :
    after q (cs ++ ds) = after (after q cs) ds := by
  simp only [after, List.foldl_append]

theorem erase_append (q : Quoting) (cs ds : List Char) :
    erase q (cs ++ ds) = erase q cs ++ erase (after q cs) ds := by
  induction cs generalizing q with
  | nil => rfl
  | cons c rest ih =>
    simp only [List.cons_append, erase, after, List.foldl_cons, ih]
    split <;> rfl

/-- Whether a character may stand outside quotes: it opens no quotes, marks no placeholder, ends no
statement, and begins neither a comment nor a number of a placeholder. -/
def isWord (c : Char) : Bool := !(['\x27', '"', '?', ';', '-', '*', '$'].contains c)

theorem after_inside {q : Quoting} {cs : List Char} (stays : ∀ c ∈ cs, q.step c = q) :
    after q cs = q := by
  induction cs with
  | nil => rfl
  | cons c rest ih =>
    rw [after_cons, stays c List.mem_cons_self]
    exact ih fun d member => stays d (List.mem_cons_of_mem c member)

theorem erase_inside {q : Quoting} {cs : List Char} (inside : q ≠ outside)
    (stays : ∀ c ∈ cs, q.step c = q) : erase q cs = [] := by
  induction cs with
  | nil => rfl
  | cons c rest ih =>
    have tail := ih fun d member => stays d (List.mem_cons_of_mem c member)
    simp only [erase, stays c List.mem_cons_self, inside, or_self, if_false, tail]

theorem erase_outside {cs : List Char} (stays : ∀ c ∈ cs, outside.step c = outside) :
    erase outside cs = cs := by
  induction cs with
  | nil => rfl
  | cons c rest ih =>
    have tail := ih fun d member => stays d (List.mem_cons_of_mem c member)
    simp only [erase, stays c List.mem_cons_self, true_or, if_true, tail]

theorem outside_stays {cs : List Char} (noSingle : '\x27' ∉ cs) (noDouble : '"' ∉ cs) :
    ∀ c ∈ cs, outside.step c = outside := by
  intro c member
  have notSingle : c ≠ '\x27' := fun same => noSingle (same ▸ member)
  have notDouble : c ≠ '"' := fun same => noDouble (same ▸ member)
  simp only [step, notSingle, notDouble, if_false]

theorem single_stays {cs : List Char} (free : '\x27' ∉ cs) : ∀ c ∈ cs, single.step c = single := by
  intro c member
  have other : c ≠ '\x27' := fun same => free (same ▸ member)
  simp only [step, other, if_false]

theorem double_stays {cs : List Char} (free : '"' ∉ cs) : ∀ c ∈ cs, double.step c = double := by
  intro c member
  have other : c ≠ '"' := fun same => free (same ▸ member)
  simp only [step, other, if_false]

theorem words_free {cs : List Char} {mark : Char} (words : ∀ c ∈ cs, isWord c = true)
    (noWord : isWord mark = false) : mark ∉ cs := by
  intro member
  exact Bool.false_ne_true (noWord.symm.trans (words mark member))

theorem between_marks {q : Quoting} {mark : Char} {cs : List Char} (inside : q ≠ outside)
    (opened : outside.step mark = q) (closed : q.step mark = outside)
    (stays : ∀ c ∈ cs, q.step c = q) :
    after outside (mark :: (cs ++ [mark])) = outside ∧
      erase outside (mark :: (cs ++ [mark])) = [mark, mark] := by
  constructor
  · rw [after_cons, opened, after_append, after_inside stays, after_cons, closed]
    rfl
  · rw [erase, opened, if_pos (Or.inl rfl), erase_append, after_inside stays,
      erase_inside inside stays, erase, closed, if_pos (Or.inr rfl)]
    rfl

end Quoting

end Analytics
