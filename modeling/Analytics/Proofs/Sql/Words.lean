import Analytics.Proofs.Sql.Numbering

/-!
Words of statements. A reader takes a statement apart into words: what is between quotes is one sign,
what is between parentheses is left out, and a comma is a word of its own. Of a template it sees the
signs of the pieces.
-/

namespace Analytics

inductive Sign where
  | letter (c : Char)
  | blank
  | comma
  | opening
  | closing
  /-- A name between double quotes. -/
  | name (cs : List Char)
  /-- A text between single quotes. -/
  | literal (cs : List Char)
  deriving DecidableEq, Repr

namespace Sign

def ofChar (c : Char) : Sign :=
  if c = ' ' then blank else if c = ',' then comma else if c = '(' then opening
  else if c = ')' then closing else letter c

/-- The signs of a text whose reader has `held` of the quotes that it is in. -/
def read (q : Quoting) (held : List Char) : List Char → List Sign
  | [] => []
  | c :: rest =>
    match q, q.step c with
    | .outside, .outside => ofChar c :: read .outside [] rest
    | .outside, inside => read inside [] rest
    | .single, .outside => literal held :: read .outside [] rest
    | .double, .outside => name held :: read .outside [] rest
    | inside, _ => read inside (held ++ [c]) rest

/-- The number of open parentheses behind some signs. -/
def depth : Nat → List Sign → Nat
  | n, [] => n
  | n, opening :: rest => depth (n + 1) rest
  | n, closing :: rest => depth (n - 1) rest
  | n, _ :: rest => depth n rest

def surface : Nat → List Sign → List Sign
  | _, [] => []
  | n, opening :: rest => surface (n + 1) rest
  | n, closing :: rest => surface (n - 1) rest
  | 0, s :: rest => s :: surface 0 rest
  | n + 1, _ :: rest => surface (n + 1) rest

/-- Blanks around commas. -/
def spaced : Sign → List Sign
  | comma => [blank, comma, blank]
  | s => [s]

def isBlank : Sign → Bool
  | blank => true
  | _ => false

def name? : Sign → Option String
  | name cs => some (String.ofList cs)
  | _ => none

def letter? : Sign → Option Char
  | letter c => some c
  | _ => none

end Sign

abbrev Word := List Sign

namespace Word

def ofText (s : String) : Word := s.toList.map Sign.ofChar

def ofSigns (signs : List Sign) : List Word :=
  (((Sign.surface 0 signs).flatMap Sign.spaced).splitOnP Sign.isBlank).filter fun w => !w.isEmpty

def comma : Word := [.comma]

def breaks : List Word := ["FROM", "BY", "ORDER", "UNION"].map ofText

/-- Whether a word neither separates items nor ends a part. -/
def isPlain (w : Word) : Bool := w ≠ comma && !breaks.contains w

end Word

namespace Sign

theorem surface_append (n : Nat) (a b : List Sign) :
    surface n (a ++ b) = surface n a ++ surface (depth n a) b := by
  induction a generalizing n with
  | nil => rfl
  | cons s rest ih =>
    cases s with
    | opening => exact ih (n + 1)
    | closing => exact ih (n - 1)
    | _ =>
      cases n with
      | zero => simp [surface, depth, ih]
      | succ n => simp [surface, depth, ih]

theorem depth_append (n : Nat) (a b : List Sign) : depth n (a ++ b) = depth (depth n a) b := by
  induction a generalizing n with
  | nil => rfl
  | cons s rest ih => cases s <;> exact ih _

/-- Whether signs close the parentheses that they open, and no others. -/
structure IsBalanced (a : List Sign) : Prop where
  depth : ∀ n, depth n a = n
  hidden : ∀ n, surface (n + 1) a = []

namespace IsBalanced

variable {a b : List Sign}

theorem nil : IsBalanced [] := ⟨fun _ => rfl, fun _ => rfl⟩

theorem append (first : IsBalanced a) (second : IsBalanced b) : IsBalanced (a ++ b) := by
  constructor
  · intro n
    rw [depth_append, first.depth, second.depth]
  · intro n
    rw [surface_append, first.depth, first.hidden, second.hidden, List.append_nil]

theorem blank : IsBalanced [Sign.blank] := ⟨fun _ => rfl, fun _ => rfl⟩

theorem surface_append (first : IsBalanced a) (b : List Sign) :
    surface 0 (a ++ b) = surface 0 a ++ surface 0 b := by
  rw [Sign.surface_append, first.depth]

end IsBalanced

end Sign

namespace Word

open Sign

variable {a b : List Sign}

theorem ofSigns_blank (first : IsBalanced a) (b : List Sign) :
    ofSigns (a ++ blank :: b) = ofSigns a ++ ofSigns b := by
  have parted : surface 0 (a ++ blank :: b) = surface 0 a ++ blank :: surface 0 b :=
    first.surface_append (blank :: b)
  unfold ofSigns
  rw [parted, List.flatMap_append, List.flatMap_cons, spaced, List.singleton_append,
    List.splitOnP_append_cons _ _ rfl, List.filter_append]
  exact fun same => nomatch same

theorem ofSigns_comma (first : IsBalanced a) (b : List Sign) :
    ofSigns (a ++ Sign.comma :: b) = ofSigns a ++ comma :: ofSigns b := by
  have parted : surface 0 (a ++ Sign.comma :: b) = surface 0 a ++ Sign.comma :: surface 0 b :=
    first.surface_append (Sign.comma :: b)
  have alone (signs : List Sign) :
      (Sign.comma :: blank :: signs).splitOnP isBlank = comma :: signs.splitOnP isBlank :=
    List.splitOnP_append_cons [Sign.comma] signs rfl
  unfold ofSigns
  rw [parted, List.flatMap_append, List.flatMap_cons, spaced]
  simp only [List.cons_append, List.nil_append]
  rw [List.splitOnP_append_cons _ _ rfl, alone, List.filter_append]
  rfl

theorem ofSigns_congr (same : surface 0 a = surface 0 b) : ofSigns a = ofSigns b := by
  unfold ofSigns
  rw [same]

theorem ofText_append (s t : String) : ofText (s ++ t) = ofText s ++ ofText t := by
  simp [ofText, String.toList_append]

theorem ofText_between (s : String) : ofText (" " ++ s ++ " ") = blank :: (ofText s ++ [blank]) := by
  rw [ofText_append, ofText_append]
  rfl

end Word

namespace Piece

open Sign

def signs : Piece → List Sign
  | text s => Word.ofText s
  | name i => [.name i.text.toList]
  | literal s => [.literal s.toList]
  | slot _ => [.letter '?']

theorem read_text {cs : List Char} (rest : List Char)
    (stays : ∀ c ∈ cs, Quoting.outside.step c = .outside) :
    read .outside [] (cs ++ rest) = cs.map ofChar ++ read .outside [] rest := by
  induction cs with
  | nil => rfl
  | cons c cs ih =>
    obtain ⟨first, later⟩ := List.forall_mem_cons.mp stays
    simp only [List.cons_append, List.map_cons, Sign.read, first, ih later]

theorem read_held {q : Quoting} {cs : List Char} (held rest : List Char) (inside : q ≠ .outside)
    (stays : ∀ c ∈ cs, q.step c = q) : read q held (cs ++ rest) = read q (held ++ cs) rest := by
  induction cs generalizing held with
  | nil => rw [List.nil_append, List.append_nil]
  | cons c cs ih =>
    obtain ⟨first, later⟩ := List.forall_mem_cons.mp stays
    have taken : Sign.read q held (c :: (cs ++ rest)) = Sign.read q (held ++ [c]) (cs ++ rest) := by
      cases q with
      | outside => exact absurd rfl inside
      | single => simp only [Sign.read, first]
      | double => simp only [Sign.read, first]
    rw [List.cons_append, taken, ih (held ++ [c]) later, List.append_assoc, List.singleton_append]

theorem read_chars {p : Piece} (tidy : p.IsTidy) (rest : List Char) :
    read .outside [] (p.chars ++ rest) = p.signs ++ read .outside [] rest := by
  cases p with
  | text s =>
    exact read_text rest (Quoting.outside_stays (Quoting.words_free tidy rfl)
      (Quoting.words_free tidy rfl))
  | name i =>
    have free : '"' ∉ i.text.toList := IdentChar.safe_ne i.safe rfl
    have held := read_held [] ('"' :: rest) (by decide) (Quoting.double_stays free)
    calc
      _ = read .double [] (i.text.toList ++ '"' :: rest) := by
        simp only [chars, List.cons_append, List.append_assoc, List.nil_append]
        rfl
      _ = read .double i.text.toList ('"' :: rest) := held
      _ = _ := rfl
  | literal s =>
    have held := read_held [] ('\x27' :: rest) (by decide) (Quoting.single_stays tidy.1)
    calc
      _ = read .single [] (s.toList ++ '\x27' :: rest) := by
        simp only [chars, List.cons_append, List.append_assoc, List.nil_append]
        rfl
      _ = read .single s.toList ('\x27' :: rest) := held
      _ = _ := rfl
  | slot value => rfl

end Piece

namespace Template

open Sign

def signs (t : Template) : List Sign := t.flatMap Piece.signs

def words (t : Template) : List Word := Word.ofSigns t.signs

theorem signs_cons (p : Piece) (t : Template) : signs (p :: t) = p.signs ++ t.signs :=
  List.flatMap_cons

theorem signs_append (t u : Template) : signs (t ++ u) = t.signs ++ u.signs := List.flatMap_append

theorem read_chars {t : Template} (tidy : t.IsTidy) : read .outside [] t.chars = t.signs := by
  induction t with
  | nil => rfl
  | cons p t ih =>
    obtain ⟨first, rest⟩ := tidy_cons.mp tidy
    rw [chars_cons, Piece.read_chars first, ih rest, signs_cons]

end Template

end Analytics
