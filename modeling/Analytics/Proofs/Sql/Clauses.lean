import Analytics.Proofs.Sql.Statements
import Analytics.Proofs.Sql.Words

/-!
The words of templates. Columns, predicates and labels are plain: their parentheses match, and none of
their words is a comma or ends a part of a statement. So the words of a branch fall into the parts that
the branch is written in.
-/

namespace Analytics

open Sign (IsBalanced blank)
open Word (ofText)

namespace Sign

def isFlat (s : Sign) : Bool := s ≠ opening && s ≠ closing

theorem balanced_flat {a : List Sign} (flat : ∀ s ∈ a, s.isFlat = true) : IsBalanced a := by
  induction a with
  | nil => exact IsBalanced.nil
  | cons s rest ih =>
    obtain ⟨first, later⟩ := List.forall_mem_cons.mp flat
    have alone : IsBalanced [s] := by
      cases s with
      | opening => cases first
      | closing => cases first
      | _ => exact ⟨fun _ => rfl, fun _ => rfl⟩
    exact alone.append (ih later)

end Sign

namespace Word

/-- Whether a text is of plain words and has no parentheses. -/
def isPlainText (s : String) : Bool :=
  (ofText s).all Sign.isFlat && (ofSigns (ofText s)).all isPlain

end Word

/-- Whether a text opens a parenthesis behind plain words, and another one closes it. -/
structure Encloses (before behind : String) : Prop where
  opens : ∀ n, Sign.depth n (ofText before) = n + 1
  closes : ∀ n, Sign.depth (n + 1) (ofText behind) = n
  hidden : ∀ n, Sign.surface (n + 1) (ofText before) = []
  hiddenBehind : ∀ n, Sign.surface (n + 1) (ofText behind) = []
  plain : (Word.ofSigns (ofText before)).all Word.isPlain = true

namespace Encloses

variable {before behind : String} {a : List Sign}

theorem balanced (e : Encloses before behind) (inner : IsBalanced a) :
    IsBalanced (ofText before ++ (a ++ ofText behind)) := by
  constructor
  · intro n
    rw [Sign.depth_append, e.opens, Sign.depth_append, inner.depth, e.closes]
  · intro n
    rw [Sign.surface_append, e.hidden, e.opens, Sign.surface_append, inner.hidden, inner.depth,
      e.hiddenBehind]
    rfl

theorem surface (e : Encloses before behind) (inner : IsBalanced a) :
    Sign.surface 0 (ofText before ++ (a ++ ofText behind)) = Sign.surface 0 (ofText before) := by
  rw [Sign.surface_append, e.opens, Sign.surface_append, inner.hidden, inner.depth, e.hiddenBehind,
    List.append_nil, List.append_nil]

end Encloses

namespace Template

variable {t u : Template} {ts : List Template} {s before behind : String}

structure IsPlain (t : Template) : Prop where
  balanced : IsBalanced t.signs
  words : ∀ w ∈ t.words, Word.isPlain w = true

theorem signs_text (s : String) : signs [.text s] = ofText s := List.append_nil (ofText s)

theorem signs_behind (t u : Template) (s : String) :
    signs (t ++ .text s :: u) = t.signs ++ (ofText s ++ u.signs) := by
  rw [signs_append, signs_cons]
  rfl

theorem signs_enclose (before behind : String) (t : Template) :
    signs (t.enclose before behind) = ofText before ++ (t.signs ++ ofText behind) := by
  rw [enclose, signs_cons, signs_append, signs_text]
  rfl

/-- The words of templates with words between them. -/
theorem words_between (inner : String) (parted : ofText s = blank :: (ofText inner ++ [blank]))
    (first : IsBalanced t.signs) (middle : IsBalanced (ofText inner)) :
    words (t ++ .text s :: u) = t.words ++ (words [.text inner] ++ u.words) := by
  have shape : signs (t ++ .text s :: u) = t.signs ++ blank :: (ofText inner ++ blank :: u.signs) := by
    rw [signs_behind, parted]
    simp
  calc
    _ = Word.ofSigns (t.signs ++ blank :: (ofText inner ++ blank :: u.signs)) := by rw [words, shape]
    _ = t.words ++ Word.ofSigns (ofText inner ++ blank :: u.signs) := Word.ofSigns_blank first _
    _ = _ := by rw [Word.ofSigns_blank middle, ← signs_text]; rfl

theorem words_before (inner : String) (parted : ofText s = ofText inner ++ [blank])
    (first : IsBalanced (ofText inner)) :
    words (.text s :: t) = words [.text inner] ++ t.words := by
  have shape : signs (.text s :: t) = ofText inner ++ blank :: t.signs := by
    rw [signs_cons, Piece.signs, parted]
    simp
  rw [words, shape, Word.ofSigns_blank first, ← signs_text]
  rfl

theorem words_behind (inner : String) (parted : ofText s = blank :: ofText inner)
    (first : IsBalanced t.signs) :
    words (t ++ [.text s]) = t.words ++ words [.text inner] := by
  have shape : signs (t ++ [.text s]) = t.signs ++ blank :: ofText inner := by
    rw [signs_append, signs_text, parted]
  rw [words, shape, Word.ofSigns_blank first, ← signs_text]
  rfl

theorem words_enclose (e : Encloses before behind) (inner : IsBalanced t.signs) :
    words (t.enclose before behind) = words [.text before] := by
  rw [words, words, signs_enclose, signs_text]
  exact Word.ofSigns_congr (e.surface inner)

theorem balanced_text (flat : (ofText s).all Sign.isFlat = true) : IsBalanced (ofText s) :=
  Sign.balanced_flat (List.all_eq_true.mp flat)

theorem plain_text (plain : Word.isPlainText s = true) : IsPlain [.text s] := by
  obtain ⟨flat, words⟩ := (Bool.and_eq_true _ _).mp plain
  constructor
  · rw [signs_text]
    exact balanced_text flat
  · rw [Template.words, signs_text]
    exact List.all_eq_true.mp words

theorem balanced_plain (plain : Word.isPlainText s = true) : IsBalanced (ofText s) :=
  balanced_text ((Bool.and_eq_true _ _).mp plain).1

theorem plain_slot (value : Bind) : IsPlain [.slot value] :=
  ⟨⟨fun _ => rfl, fun _ => rfl⟩, List.forall_mem_singleton.mpr rfl⟩

theorem plain_name (i : Ident) : IsPlain [.name i] :=
  ⟨⟨fun _ => rfl, fun _ => rfl⟩, List.forall_mem_singleton.mpr rfl⟩

theorem plain_literal (s : String) : IsPlain [.literal s] :=
  ⟨⟨fun _ => rfl, fun _ => rfl⟩, List.forall_mem_singleton.mpr rfl⟩

theorem balanced_spaced {inner : String} (parted : ofText s = blank :: (ofText inner ++ [blank]))
    (plain : Word.isPlainText inner = true) : IsBalanced (ofText s) := by
  rw [parted]
  exact IsBalanced.blank.append ((balanced_plain plain).append IsBalanced.blank)

theorem plain_between (inner : String) (first : t.IsPlain) (last : u.IsPlain)
    (parted : ofText s = blank :: (ofText inner ++ [blank]))
    (plain : Word.isPlainText inner = true) : IsPlain (t ++ .text s :: u) := by
  constructor
  · rw [signs_behind]
    exact first.balanced.append ((balanced_spaced parted plain).append last.balanced)
  · rw [words_between inner parted first.balanced (balanced_plain plain)]
    simp only [List.forall_mem_append]
    exact ⟨first.words, (plain_text plain).words, last.words⟩

theorem plain_before (inner : String) (rest : t.IsPlain)
    (parted : ofText s = ofText inner ++ [blank]) (plain : Word.isPlainText inner = true) :
    IsPlain (.text s :: t) := by
  constructor
  · rw [signs_cons, Piece.signs, parted]
    exact ((balanced_plain plain).append IsBalanced.blank).append rest.balanced
  · rw [words_before inner parted (balanced_plain plain)]
    simp only [List.forall_mem_append]
    exact ⟨(plain_text plain).words, rest.words⟩

theorem plain_behind (inner : String) (first : t.IsPlain)
    (parted : ofText s = blank :: ofText inner) (plain : Word.isPlainText inner = true) :
    IsPlain (t ++ [.text s]) := by
  constructor
  · rw [signs_append, signs_text, parted]
    exact first.balanced.append (IsBalanced.blank.append (balanced_plain plain))
  · rw [words_behind inner parted first.balanced]
    simp only [List.forall_mem_append]
    exact ⟨first.words, (plain_text plain).words⟩

theorem plain_enclose (e : Encloses before behind) (inner : IsBalanced t.signs) :
    IsPlain (t.enclose before behind) := by
  constructor
  · rw [signs_enclose]
    exact e.balanced inner
  · rw [words_enclose e inner, words, signs_text]
    exact List.all_eq_true.mp e.plain

theorem balanced_join (separator : IsBalanced (ofText s)) (each : ∀ t ∈ ts, IsBalanced t.signs) :
    IsBalanced (join s ts).signs := by
  induction ts with
  | nil => exact IsBalanced.nil
  | cons t rest ih =>
    obtain ⟨first, later⟩ := List.forall_mem_cons.mp each
    cases rest with
    | nil => exact first
    | cons u rest =>
      rw [join, signs_behind]
      · exact first.append (separator.append (ih later))
      · exact List.cons_ne_nil u rest

theorem balanced_list (each : ∀ t ∈ ts, IsBalanced t.signs) : IsBalanced (join ", " ts).signs :=
  balanced_join (balanced_text rfl) each

/-- A comma parts the words of an item from those of the items behind it. -/
theorem words_list_cons (first : IsBalanced t.signs) (filled : ts ≠ []) :
    words (join ", " (t :: ts)) = t.words ++ Word.comma :: words (join ", " ts) := by
  have shape : signs (join ", " (t :: ts))
      = t.signs ++ Sign.comma :: ([] ++ blank :: signs (join ", " ts)) := by
    rw [join, signs_behind]
    · rfl
    · exact filled
  rw [words, shape, Word.ofSigns_comma first, Word.ofSigns_blank IsBalanced.nil]
  rfl

theorem words_list (each : ∀ t ∈ ts, IsBalanced t.signs) :
    words (join ", " ts) = [Word.comma].intercalate (ts.map words) := by
  induction ts with
  | nil => rfl
  | cons t rest ih =>
    obtain ⟨first, later⟩ := List.forall_mem_cons.mp each
    cases rest with
    | nil => exact List.intercalate_singleton.symm
    | cons u rest =>
      rw [words_list_cons first (List.cons_ne_nil u rest), ih later]
      simp only [List.map_cons, List.intercalate_cons_cons, List.append_assoc]
      rfl

theorem plain_join (inner : String) (each : ∀ t ∈ ts, IsPlain t)
    (parted : ofText s = blank :: (ofText inner ++ [blank]))
    (plain : Word.isPlainText inner = true) : IsPlain (join s ts) := by
  induction ts with
  | nil => exact ⟨IsBalanced.nil, fun _ member => absurd member List.not_mem_nil⟩
  | cons t rest ih =>
    obtain ⟨first, later⟩ := List.forall_mem_cons.mp each
    cases rest with
    | nil => exact first
    | cons u rest => exact plain_between inner first (ih later) parted plain

theorem encloses_group : Encloses "(" ")" :=
  ⟨fun _ => rfl, fun _ => rfl, fun _ => rfl, fun _ => rfl, rfl⟩

theorem plain_conjunction (each : ∀ t ∈ ts, IsBalanced t.signs) : IsPlain (conjunction ts) := by
  cases ts with
  | nil => exact plain_text rfl
  | cons t rest =>
    refine plain_join (s := " AND ") "AND" ?_ rfl rfl
    intro u member
    obtain ⟨inner, among, rfl⟩ := List.mem_map.mp member
    exact plain_enclose encloses_group (each inner among)

end Template

open Template

namespace Column

theorem template_plain (c : Column) : c.template.IsPlain :=
  ⟨⟨fun _ => rfl, fun _ => rfl⟩, List.forall_mem_singleton.mpr rfl⟩

end Column

namespace Dialect

theorem casts_enclose (d : Dialect) : Encloses d.numberWords.1 d.numberWords.2 ∧
    Encloses d.timestampWords.1 d.timestampWords.2 ∧ Encloses d.dateWords.1 d.dateWords.2 := by
  cases d <;> refine ⟨?_, ?_, ?_⟩ <;>
    exact ⟨fun _ => rfl, fun _ => rfl, fun _ => rfl, fun _ => rfl, rfl⟩

end Dialect

namespace Scalar

theorem template_plain (d : Dialect) (e : Scalar Column) : (e.template d).IsPlain := by
  induction e with
  | column c => exact c.template_plain
  | bound value => exact plain_slot value
  | number e ih => exact plain_enclose d.casts_enclose.1 ih.balanced
  | timestamp e ih => exact plain_enclose d.casts_enclose.2.1 ih.balanced
  | date e ih => exact plain_enclose d.casts_enclose.2.2 ih.balanced

end Scalar

namespace Predicate

theorem likeTemplate_plain (d : Dialect) (c : Column) (pattern : String) :
    (likeTemplate d c pattern).IsPlain := by
  have operator : Word.isPlainText d.likeOperator = true := by cases d <;> rfl
  have escaped : IsPlain ([.slot (.text pattern)] ++ .text " ESCAPE " :: [.literal "\\"]) :=
    plain_between "ESCAPE" (plain_slot _) (plain_literal _) rfl rfl
  exact plain_between _ c.template_plain escaped (Word.ofText_between _) operator

theorem listTemplate_plain {word : String} (d : Dialect) (item : Scalar Column)
    (items : List (Scalar Column)) (plain : Word.isPlainText word = true) :
    (listTemplate d word item items).IsPlain := by
  have listed : IsBalanced (join ", " (items.map (Scalar.template d))).signs := by
    apply balanced_list
    exact List.forall_mem_map.mpr fun e _ => (e.template_plain d).balanced
  exact plain_between _ (item.template_plain d) (plain_enclose encloses_group listed)
    (Word.ofText_between _) plain

theorem template_plain (d : Dialect) (p : Predicate Column) : (p.template d).IsPlain := by
  induction p with
  | always => exact plain_text rfl
  | never => exact plain_text rfl
  | isNull c => exact plain_behind "IS NULL" c.template_plain rfl rfl
  | isNotNull c => exact plain_behind "IS NOT NULL" c.template_plain rfl rfl
  | compare comparison left right =>
    have symbol : Word.isPlainText comparison.symbol = true := by cases comparison <;> rfl
    exact plain_between _ (left.template_plain d) (right.template_plain d) (Word.ofText_between _)
      symbol
  | both first second ih₁ ih₂ => exact plain_between "AND" ih₁ ih₂ rfl rfl
  | within item items => exact listTemplate_plain d item items rfl
  | notWithin item items => exact listTemplate_plain d item items rfl
  | like c pattern => exact likeTemplate_plain d c pattern
  | notLike c pattern =>
    have negated : Encloses "NOT (" ")" :=
      ⟨fun _ => rfl, fun _ => rfl, fun _ => rfl, fun _ => rfl, rfl⟩
    exact plain_enclose negated (likeTemplate_plain d c pattern).balanced

end Predicate

namespace BucketLabel

/-- The function that writes a label, and what it is applied to. -/
def formatter : Dialect → String
  | .postgres => "to_char("
  | .sqlite => "strftime("

def arguments (d : Dialect) (l : BucketLabel Column) : Template :=
  match d with
  | .postgres =>
    zonedTemplate l.encoding l.zone l.column.template ++ [.text ", ", .literal (toCharPattern l.unit)]
  | .sqlite =>
    .literal (strftimePattern l.unit) :: .text ", " ::
      shiftedTemplate l.encoding l.shift l.column.template

theorem template_call (d : Dialect) (l : BucketLabel Column) :
    l.template d = (l.arguments d).enclose (formatter d) ")" := by
  cases d <;> simp [template, enclose, arguments, formatter]

theorem arguments_balanced (d : Dialect) (l : BucketLabel Column) :
    IsBalanced (l.arguments d).signs := by
  unfold arguments zonedTemplate shiftedTemplate
  cases d <;> cases l.encoding <;> exact ⟨fun _ => rfl, fun _ => rfl⟩

theorem template_plain (d : Dialect) (l : BucketLabel Column) : (l.template d).IsPlain := by
  have call : Encloses (formatter d) ")" := by
    cases d <;> exact ⟨fun _ => rfl, fun _ => rfl, fun _ => rfl, fun _ => rfl, rfl⟩
  rw [template_call]
  exact plain_enclose call (l.arguments_balanced d)

end BucketLabel

namespace Relation

theorem template_plain (r : Relation) : r.template.IsPlain :=
  plain_between "AS" (plain_name r.table) (plain_name r.name) rfl rfl

end Relation

namespace Count

theorem template_plain (c : Count Column) : c.template.IsPlain := by
  have counted : c.countedTemplate.IsPlain := by
    unfold countedTemplate
    split
    · exact Column.template_plain _
    · exact plain_text rfl
  unfold template
  split
  · have call : Encloses c.word ")" := by
      unfold word
      split <;> exact ⟨fun _ => rfl, fun _ => rfl, fun _ => rfl, fun _ => rfl, rfl⟩
    exact plain_enclose call counted.balanced
  · rename_i column event _
    have call : Encloses c.word " END)" := by
      unfold word
      split <;> exact ⟨fun _ => rfl, fun _ => rfl, fun _ => rfl, fun _ => rfl, rfl⟩
    have named := plain_between (s := " THEN ") "THEN" (plain_slot (.text event)) counted rfl rfl
    have read := plain_between (s := " = ") "=" column.template_plain named rfl rfl
    have chosen := plain_before (s := "CASE WHEN ") "CASE WHEN" read rfl rfl
    have whole := plain_enclose call chosen.balanced
    simpa [enclose] using whole

end Count

theorem words_titled {t : Template} (title : Ident) (balanced : IsBalanced t.signs) :
    (t ++ titleTemplate title).words = t.words ++ [ofText "AS", [.name title.text.toList]] :=
  words_between "AS" rfl balanced (balanced_text rfl)

theorem titled_plain {t : Template} (title : Ident) (plain : t.IsPlain) :
    IsPlain (t ++ titleTemplate title) :=
  plain_between "AS" plain (plain_name title) rfl rfl

namespace GroupColumn

theorem exprTemplate_plain (d : Dialect) (e : GroupExpr Column) : (exprTemplate d e).IsPlain := by
  cases e with
  | value column => exact column.template_plain
  | flag p =>
    have chosen := plain_before (s := "CASE WHEN ") "CASE WHEN" (p.template_plain d) rfl rfl
    exact plain_behind "THEN 1 ELSE 0 END" chosen rfl rfl
  | zero => exact plain_text rfl

end GroupColumn

namespace Join

/-- A template with joins behind it. -/
theorem joined_plain {t : Template} (d : Dialect) (joins : List Join) (plain : t.IsPlain) :
    IsPlain (t ++ joins.flatMap (template d)) := by
  induction joins generalizing t with
  | nil =>
    rw [List.flatMap_nil, List.append_nil]
    exact plain
  | cons j rest ih =>
    have linked := plain_between (s := " ON ") "ON" j.relation.template_plain
      (j.link.template_plain d) rfl rfl
    have joined := ih (plain_between (s := " LEFT JOIN ") "LEFT JOIN" plain linked rfl rfl)
    rw [List.flatMap_cons, ← List.append_assoc]
    exact joined

end Join

namespace Condition

theorem template_plain (d : Dialect) (c : Condition) : (c.template d).IsPlain := by
  cases c with
  | plain p => exact p.template_plain d
  | linked relation link p =>
    have exist : Encloses "EXISTS (SELECT 1 FROM " ")" :=
      ⟨fun _ => rfl, fun _ => rfl, fun _ => rfl, fun _ => rfl, rfl⟩
    have own := plain_enclose encloses_group (p.template_plain d).balanced
    have both := plain_between (s := " AND ") "AND" (link.template_plain d) own rfl rfl
    have found := plain_between (s := " WHERE ") "WHERE" relation.template_plain both rfl rfl
    have whole := plain_enclose exist found.balanced
    simpa [template, enclose] using whole

end Condition

end Analytics
