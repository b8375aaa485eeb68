import Analytics.Filter.Compile
import Analytics.Proofs.Store.Finite
import Analytics.Store.Meaning
import Mathlib.Data.List.Forall2

/-!
Patterns and the texts they accept. The rules of patterns are a relation between characters, for any
way to tell which letters count as one; the store decides it for letters of the English alphabet in
either case. The pattern that a filter binds accepts exactly the texts that have the operand itself, as
it is written, at the places that the operator names.
-/

namespace Analytics

theorem Truth.not_ofBool (b : Bool) : (Truth.ofBool b).not = .ofBool (!b) := by cases b <;> rfl

namespace Pattern

/-- The rules of patterns, where `same` tells which characters count as one. -/
inductive Fits (same : Char → Char → Prop) : List Char → List Char → Prop
  | nil : Fits same [] []
  | anyText {rest cs : List Char} (run : List Char) (fits : Fits same rest cs) :
      Fits same ('%' :: rest) (run ++ cs)
  | anyChar {rest cs : List Char} (c : Char) (fits : Fits same rest cs) :
      Fits same ('_' :: rest) (c :: cs)
  | escaped {c d : Char} {rest cs : List Char} (alike : same c d) (fits : Fits same rest cs) :
      Fits same ('\\' :: c :: rest) (d :: cs)
  | char {c d : Char} {rest cs : List Char} (plain : c ≠ '%' ∧ c ≠ '_' ∧ c ≠ '\\')
      (alike : same c d) (fits : Fits same rest cs) : Fits same (c :: rest) (d :: cs)

section

variable {same : Char → Char → Prop} {rest cs : List Char} {c : Char}

theorem fits_nil : Fits same [] cs ↔ cs = [] := by
  constructor
  · rintro ⟨⟩
    rfl
  · rintro rfl
    exact .nil

theorem fits_anyText :
    Fits same ('%' :: rest) cs ↔ ∃ run tail, cs = run ++ tail ∧ Fits same rest tail := by
  constructor
  · intro fits
    cases fits with
    | anyText run fits => exact ⟨run, _, rfl, fits⟩
    | char plain => exact absurd rfl plain.1
  · rintro ⟨run, tail, rfl, fits⟩
    exact .anyText run fits

theorem fits_anyChar :
    Fits same ('_' :: rest) cs ↔ ∃ d tail, cs = d :: tail ∧ Fits same rest tail := by
  constructor
  · intro fits
    cases fits with
    | anyChar d fits => exact ⟨d, _, rfl, fits⟩
    | char plain => exact absurd rfl plain.2.1
  · rintro ⟨d, tail, rfl, fits⟩
    exact .anyChar d fits

theorem fits_escaped : Fits same ('\\' :: c :: rest) cs
    ↔ ∃ d tail, cs = d :: tail ∧ same c d ∧ Fits same rest tail := by
  constructor
  · intro fits
    cases fits with
    | escaped alike fits => exact ⟨_, _, rfl, alike, fits⟩
    | char plain => exact absurd rfl plain.2.2
  · rintro ⟨d, tail, rfl, alike, fits⟩
    exact .escaped alike fits

theorem fits_char (plain : c ≠ '%' ∧ c ≠ '_' ∧ c ≠ '\\') : Fits same (c :: rest) cs
    ↔ ∃ d tail, cs = d :: tail ∧ same c d ∧ Fits same rest tail := by
  constructor
  · intro fits
    cases fits with
    | anyText => exact absurd rfl plain.1
    | anyChar => exact absurd rfl plain.2.1
    | escaped => exact absurd rfl plain.2.2
    | char _ alike fits => exact ⟨_, _, rfl, alike, fits⟩
  · rintro ⟨d, tail, rfl, alike, fits⟩
    exact .char plain alike fits

theorem not_fits_dangling : ¬ Fits same ['\\'] cs := by
  intro fits
  cases fits with
  | char plain => exact absurd rfl plain.2.2

end

theorem someEnd_iff {test : List Char → Bool} {cs : List Char} :
    someEnd test cs = true ↔ ∃ run tail, cs = run ++ tail ∧ test tail = true := by
  induction cs with
  | nil => simp [someEnd]
  | cons c rest ih =>
    rw [someEnd, Bool.or_eq_true, ih]
    constructor
    · rintro (here | ⟨run, tail, rfl, later⟩)
      · exact ⟨[], _, rfl, here⟩
      · exact ⟨c :: run, tail, rfl, later⟩
    · rintro ⟨run, tail, split, passes⟩
      cases run with
      | nil => exact .inl (split ▸ passes)
      | cons d run => exact .inr ⟨run, tail, (List.cons.inj split).2, passes⟩

/-- Letters of the English alphabet in either case count as one. -/
def EitherCase (c d : Char) : Prop := sameLetter c d = true

instance (c d : Char) : Decidable (EitherCase c d) := inferInstanceAs (Decidable (_ = _))

/-- Whether a pattern does not end in the middle of an escape, and its parts accept a text. -/
def Reads (pattern cs : List Char) : Prop :=
  ∃ parts, parse? pattern = some parts ∧ matchesParts parts cs = true

section

variable {pattern rest cs : List Char} {c : Char}

theorem reads_cons {part : Part} (read : parse? pattern = (parse? rest).map (part :: ·)) :
    Reads pattern cs
      ↔ ∃ parts, parse? rest = some parts ∧ matchesParts (part :: parts) cs = true := by
  simp only [Reads, read, Option.map_eq_some_iff, exists_exists_and_eq_and]

theorem reads_anyText (read : parse? pattern = (parse? rest).map (.anyText :: ·)) :
    Reads pattern cs ↔ ∃ run tail, cs = run ++ tail ∧ Reads rest tail := by
  simp only [reads_cons read, matchesParts, someEnd_iff]
  constructor
  · rintro ⟨parts, own, run, tail, split, accepted⟩
    exact ⟨run, tail, split, parts, own, accepted⟩
  · rintro ⟨run, tail, split, parts, own, accepted⟩
    exact ⟨parts, own, run, tail, split, accepted⟩

theorem reads_anyChar (read : parse? pattern = (parse? rest).map (.anyChar :: ·)) :
    Reads pattern cs ↔ ∃ d tail, cs = d :: tail ∧ Reads rest tail := by
  rw [reads_cons read]
  cases cs <;> simp [matchesParts, Reads]

theorem reads_char (read : parse? pattern = (parse? rest).map (.char c :: ·)) :
    Reads pattern cs ↔ ∃ d tail, cs = d :: tail ∧ EitherCase c d ∧ Reads rest tail := by
  rw [reads_cons read]
  constructor
  · rintro ⟨parts, own, accepted⟩
    cases cs with
    | nil => cases accepted
    | cons d tail =>
      rw [matchesParts, Bool.and_eq_true] at accepted
      exact ⟨d, tail, rfl, accepted.1, parts, own, accepted.2⟩
  · rintro ⟨d, tail, rfl, alike, parts, own, accepted⟩
    exact ⟨parts, own, Bool.and_eq_true_iff.mpr ⟨alike, accepted⟩⟩

end

theorem parse?_char {c : Char} {rest : List Char} (plain : c ≠ '%' ∧ c ≠ '_' ∧ c ≠ '\\') :
    parse? (c :: rest) = (parse? rest).map (.char c :: ·) := by
  obtain ⟨noText, noChar, noEscape⟩ := plain
  exact parse?.eq_6 c rest (fun _ _ escape => absurd escape noEscape)
    (fun escape => absurd escape noEscape) noText noChar

theorem reads_iff (pattern cs : List Char) : Reads pattern cs ↔ Fits EitherCase pattern cs := by
  induction pattern using parse?.induct generalizing cs with
  | case1 => simp [Reads, parse?, matchesParts, fits_nil]
  | case2 c rest ih =>
    have read : parse? ('\\' :: c :: rest) = (parse? rest).map (.char c :: ·) := by rw [parse?]
    simp only [reads_char read, fits_escaped, ih]
  | case3 => exact iff_of_false (fun ⟨_, read, _⟩ => nomatch read) not_fits_dangling
  | case4 rest ih =>
    have read : parse? ('%' :: rest) = (parse? rest).map (.anyText :: ·) := by rw [parse?]
    simp only [reads_anyText read, fits_anyText, ih]
  | case5 rest ih =>
    have read : parse? ('_' :: rest) = (parse? rest).map (.anyChar :: ·) := by rw [parse?]
    simp only [reads_anyChar read, fits_anyChar, ih]
  | case6 c rest escaping dangling noText noChar ih =>
    have plain : c ≠ '%' ∧ c ≠ '_' ∧ c ≠ '\\' := by
      refine ⟨noText, noChar, fun escape => ?_⟩
      cases rest with
      | nil => exact dangling escape rfl
      | cons d tail => exact escaping d tail escape rfl
    simp only [reads_char (parse?_char plain), fits_char plain, ih]

theorem accepts_iff (pattern text : String) :
    accepts pattern text = true ↔ Fits EitherCase pattern.toList text.toList := by
  rw [← reads_iff, Reads, accepts]
  cases parse? pattern.toList <;> simp

end Pattern

namespace Filter

open Pattern

/-- Whether a text has an operand, as it is written, at a place that a pattern of some shape is for. -/
def PatternAnchor.Finds (same : Char → Char → Prop) (operand text : List Char) :
    PatternAnchor → Prop
  | .inside => ∃ before found after, text = before ++ (found ++ after) ∧ List.Forall₂ same operand found
  | .atStart => ∃ found after, text = found ++ after ∧ List.Forall₂ same operand found
  | .atEnd => ∃ before found, text = before ++ found ∧ List.Forall₂ same operand found

section

variable {same : Char → Char → Prop} {rest cs : List Char}

theorem escapePatternChar_cases (c : Char) :
    escapePatternChar c = ['\\', c] ∨
      escapePatternChar c = [c] ∧ c ≠ '%' ∧ c ≠ '_' ∧ c ≠ '\\' := by
  unfold escapePatternChar
  split
  · exact .inl rfl
  · rename_i plain
    simp only [Bool.or_eq_true, decide_eq_true_eq, not_or] at plain
    exact .inr ⟨rfl, plain.1.1, plain.1.2, plain.2⟩

theorem fits_operandChar (c : Char) : Fits same (escapePatternChar c ++ rest) cs
    ↔ ∃ d tail, cs = d :: tail ∧ same c d ∧ Fits same rest tail := by
  obtain escaped | ⟨own, plain⟩ := escapePatternChar_cases c
  · rw [escaped]
    exact fits_escaped
  · rw [own]
    exact fits_char plain

theorem fits_operand (operand : List Char) : Fits same (operand.flatMap escapePatternChar ++ rest) cs
    ↔ ∃ found tail, cs = found ++ tail ∧ List.Forall₂ same operand found ∧ Fits same rest tail := by
  induction operand generalizing cs with
  | nil =>
    constructor
    · intro fits
      exact ⟨[], cs, rfl, .nil, fits⟩
    · rintro ⟨_, tail, rfl, ⟨⟩, fits⟩
      exact fits
  | cons c operand ih =>
    rw [List.flatMap_cons, List.append_assoc, fits_operandChar]
    constructor
    · rintro ⟨d, _, rfl, alike, fits⟩
      obtain ⟨found, tail, rfl, others, fits⟩ := ih.mp fits
      exact ⟨d :: found, tail, rfl, .cons alike others, fits⟩
    · rintro ⟨_, tail, rfl, found, fits⟩
      cases found with
      | cons alike others => exact ⟨_, _, rfl, alike, ih.mpr ⟨_, tail, rfl, others, fits⟩⟩

theorem fits_anything : Fits same ['%'] cs := by
  rw [← List.append_nil cs]
  exact .anyText cs .nil

theorem fits_patternFor (shape : PatternAnchor) (operand : String) :
    Fits same (patternFor shape operand).toList cs ↔ shape.Finds same operand.toList cs := by
  cases shape with
  | inside =>
    have shown : (patternFor .inside operand).toList
        = '%' :: (operand.toList.flatMap escapePatternChar ++ ['%']) := by
      simp [patternFor, escapePattern]
    rw [shown, fits_anyText]
    simp only [fits_operand, fits_anything, and_true]
    constructor
    · rintro ⟨before, _, rfl, found, after, rfl, alike⟩
      exact ⟨before, found, after, rfl, alike⟩
    · rintro ⟨before, found, after, rfl, alike⟩
      exact ⟨before, _, rfl, found, after, rfl, alike⟩
  | atStart =>
    have shown : (patternFor .atStart operand).toList
        = operand.toList.flatMap escapePatternChar ++ ['%'] := by
      simp [patternFor, escapePattern]
    simp only [shown, fits_operand, fits_anything, and_true, PatternAnchor.Finds]
  | atEnd =>
    have shown : (patternFor .atEnd operand).toList
        = '%' :: (operand.toList.flatMap escapePatternChar ++ []) := by
      simp [patternFor, escapePattern]
    simp only [shown, fits_anyText, fits_operand, fits_nil]
    constructor
    · rintro ⟨before, _, rfl, found, _, rfl, alike, rfl⟩
      exact ⟨before, found, by rw [List.append_nil], alike⟩
    · rintro ⟨before, found, rfl, alike⟩
      exact ⟨before, found, rfl, found, [], (List.append_nil _).symm, alike, rfl⟩

end

theorem parse?_patternFor (shape : PatternAnchor) (operand : String) :
    parse? (patternFor shape operand).toList ≠ none := by
  have alike : List.Forall₂ EitherCase operand.toList operand.toList :=
    List.forall₂_same.mpr fun c _ => decide_eq_true rfl
  have itself : shape.Finds EitherCase operand.toList operand.toList := by
    cases shape with
    | inside => exact ⟨[], _, [], (List.append_nil _).symm, alike⟩
    | atStart => exact ⟨_, [], (List.append_nil _).symm, alike⟩
    | atEnd => exact ⟨[], _, rfl, alike⟩
  obtain ⟨parts, read, -⟩ := (reads_iff _ _).mpr ((fits_patternFor shape operand).mpr itself)
  rw [read]
  exact Option.some_ne_none parts

def anchor? : FilterOperator → Option PatternAnchor
  | .contains => some .inside
  | .startsWith => some .atStart
  | .endsWith => some .atEnd
  | _ => none

section

variable {κ : Type} {type : ValueType} {column : StoredColumn κ} {value : Json} {operand : String}
  {v : RowView κ}

theorem compile_pattern (scalar : textOf value = .ok operand) {op : FilterOperator}
    {shape : PatternAnchor} (looks : anchor? op = some shape) :
    compile type op value column = .ok (.like column.ref (patternFor shape operand)) := by
  cases op <;> cases looks <;> (simp only [compile, pattern, scalar]; rfl)

theorem compile_notContains (scalar : textOf value = .ok operand) :
    compile type .notContains value column
      = .ok (.notLike column.ref (patternFor .inside operand)) := by
  simp only [compile, scalar]
  rfl

theorem like_holds (shape : PatternAnchor) :
    ((Predicate.like column.ref (patternFor shape operand)).eval v).holds = true
      ↔ ∃ text, (v.cell column.ref).text? = some text ∧
        shape.Finds EitherCase operand.toList text.toList := by
  simp only [Predicate.eval, matchCell]
  cases (v.cell column.ref).text? with
  | none => simp [Truth.holds]
  | some text => simp [Truth.ofBool_holds, accepts_iff, fits_patternFor]

theorem text?_eq_none_iff {c : Cell} : c.text? = none ↔ c.isNull = true := by
  cases c <;> simp [Cell.text?, Cell.isNull]

theorem notLike_holds {c : κ} {pattern : String} :
    ((Predicate.notLike c pattern).eval v).holds = true
      ↔ (v.cell c).isNull = false ∧ ((Predicate.like c pattern).eval v).holds = false := by
  rw [← Bool.not_eq_true (v.cell c).isNull, ← text?_eq_none_iff]
  simp only [Predicate.eval, matchCell]
  cases (v.cell c).text? with
  | none => simp [Truth.holds, Truth.not]
  | some text => simp [Truth.not_ofBool, Truth.ofBool_holds]

end

/-- The pattern operators are literal: however letters are compared, the pattern that is bound accepts
the texts that have the operand as it is written, and can be read to its end; so the store keeps the
rows with such texts, letters in either case. The rows of not-contains are those of values that
contains leaves out. -/
theorem pattern_literal {κ : Type} (type : ValueType) (column : StoredColumn κ) (value : Json)
    (operand : String) (scalar : textOf value = .ok operand) (v : RowView κ) :
    (∀ op shape, anchor? op = some shape → ∃ pattern,
      compile type op value column = .ok (.like column.ref pattern) ∧
      parse? pattern.toList ≠ none ∧
      (∀ same text, Fits same pattern.toList text ↔ shape.Finds same operand.toList text) ∧
      (((Predicate.like column.ref pattern).eval v).holds = true
        ↔ ∃ text, (v.cell column.ref).text? = some text ∧
          shape.Finds EitherCase operand.toList text.toList)) ∧
    ∃ contains notContains, compile type .contains value column = .ok contains ∧
      compile type .notContains value column = .ok notContains ∧
      ((notContains.eval v).holds = true
        ↔ (v.cell column.ref).isNull = false ∧ (contains.eval v).holds = false) := by
  refine ⟨fun op shape looks => ?_, ?_⟩
  · exact ⟨patternFor shape operand, compile_pattern scalar looks, parse?_patternFor shape operand,
      fun _ _ => fits_patternFor shape operand, like_holds shape⟩
  · exact ⟨_, _, compile_pattern scalar rfl, compile_notContains scalar, notLike_holds⟩

def sampleTitle : RowView String := ⟨fun _ => .text "UP TO 50%_\\OFF", fun _ => .text⟩

theorem pattern_literal_sample : textOf (.text "50%_\\off") = .ok "50%_\\off" ∧
    ∃ contains notContains,
      compile .string .contains (.text "50%_\\off") ⟨"page_title", .native⟩ = .ok contains ∧
      compile .string .notContains (.text "50%_\\off") ⟨"page_title", .native⟩ = .ok notContains ∧
      (contains.eval sampleTitle).holds = true ∧ (notContains.eval sampleTitle).holds = false := by
  obtain ⟨literal, contains, notContains, made, made', negated⟩ := pattern_literal .string
    ⟨"page_title", .native⟩ (.text "50%_\\off") "50%_\\off" rfl sampleTitle
  obtain ⟨pattern, own, -, -, kept⟩ := literal .contains .inside rfl
  cases made.symm.trans own
  have found : PatternAnchor.Finds EitherCase "50%_\\off".toList "UP TO 50%_\\OFF".toList .inside :=
    ⟨"UP TO ".toList, "50%_\\OFF".toList, [], by decide +kernel, by decide +kernel⟩
  have accepted := kept.mpr ⟨_, rfl, found⟩
  refine ⟨rfl, _, _, made, made', accepted, ?_⟩
  rw [Bool.eq_false_iff, Ne, negated, accepted]
  rintro ⟨-, ⟨⟩⟩

end Filter

end Analytics
