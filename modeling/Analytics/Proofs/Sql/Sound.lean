import Analytics.Proofs.Sql.Numbering

/-!
Sound templates: tidy ones in which no digit stands behind a placeholder. Templates are put together
from sound ones with words between them.
-/

namespace Analytics

/-- Whether words can stand behind a placeholder. -/
def isOpening (s : String) : Bool :=
  match s.toList with
  | [] => false
  | c :: _ => !Digits.isDigit c

theorem toString_words (n : Nat) : (toString n).toList.all Quoting.isWord = true := by
  have written : toString n = String.ofList (Nat.toDigits 10 n) := rfl
  rw [written, String.toList_ofList]
  apply List.all_eq_true.mpr
  intro c member
  have free (mark : Char) (noDigit : Digits.isDigit mark = false) : c ≠ mark := fun same =>
    toDigits_free n noDigit (same ▸ member)
  simp only [Quoting.isWord, Bool.not_eq_true', List.contains_eq_mem, decide_eq_false_iff_not,
    List.mem_cons, List.not_mem_nil, or_false, not_or]
  exact ⟨free _ rfl, free _ rfl, free _ rfl, free _ rfl, free _ rfl, free _ rfl, free _ rfl⟩

namespace Template

structure IsSound (t : Template) : Prop where
  tidy : t.IsTidy
  spaced : t.IsSpaced

theorem head_of_opening {s : String} (u : Template) (opening : isOpening s = true) :
    ∀ c ∈ (outline (.text s :: u)).head?, Digits.isDigit c = false := by
  intro c member
  rw [outline_cons, Piece.outline] at member
  unfold isOpening at opening
  split at opening
  · cases opening
  · rename_i d ds written
    rw [written, List.cons_append, List.head?_cons, Option.mem_some_iff] at member
    rw [← member]
    exact (Bool.not_eq_true' _).mp opening

theorem spaced_behind {t u : Template} {s : String} (first : t.IsSpaced) (second : u.IsSpaced)
    (opening : isOpening s = true) : IsSpaced (t ++ .text s :: u) := by
  induction t with
  | nil => exact second
  | cons p t ih =>
    cases p with
    | slot value =>
      have lead : ∀ c ∈ (outline (t ++ .text s :: u)).head?, Digits.isDigit c = false := by
        have inner := first.1
        rw [outline_append]
        cases written : outline t with
        | nil => exact head_of_opening u opening
        | cons d ds =>
          rw [written] at inner
          exact inner
      exact ⟨lead, ih first.2⟩
    | _ => exact ih first

theorem sound_nil : IsSound [] := ⟨fun _ member => absurd member List.not_mem_nil, trivial⟩

theorem sound_text {s : String} (words : s.toList.all Quoting.isWord = true) :
    IsSound [.text s] :=
  ⟨tidy_cons.mpr ⟨List.all_eq_true.mp words, sound_nil.tidy⟩, trivial⟩

theorem sound_name (i : Ident) : IsSound [.name i] :=
  ⟨tidy_cons.mpr ⟨trivial, sound_nil.tidy⟩, trivial⟩

theorem sound_slot (value : Bind) : IsSound [.slot value] :=
  ⟨tidy_cons.mpr ⟨trivial, sound_nil.tidy⟩, fun _ member => (Option.not_mem_none _ member).elim,
    trivial⟩

theorem sound_literal {s : String} (quiet : IsQuiet s) : IsSound [.literal s] :=
  ⟨tidy_cons.mpr ⟨quiet, sound_nil.tidy⟩, trivial⟩

theorem sound_fixed {p : Piece} {t : Template} (first : IsSound [p]) (fixed : p.value? = none)
    (rest : IsSound t) : IsSound (p :: t) := by
  refine ⟨tidy_cons.mpr ⟨(tidy_cons.mp first.tidy).1, rest.tidy⟩, ?_⟩
  cases p with
  | slot value => cases fixed
  | _ => exact rest.spaced

theorem sound_words {s : String} {t : Template} (words : s.toList.all Quoting.isWord = true)
    (rest : IsSound t) : IsSound (.text s :: t) := sound_fixed (sound_text words) rfl rest

theorem sound_named (i : Ident) {t : Template} (rest : IsSound t) : IsSound (.name i :: t) :=
  sound_fixed (sound_name i) rfl rest

theorem sound_quoted {s : String} {t : Template} (quiet : IsQuiet s) (rest : IsSound t) :
    IsSound (.literal s :: t) := sound_fixed (sound_literal quiet) rfl rest

theorem sound_behind {t u : Template} {s : String} (first : t.IsSound)
    (words : s.toList.all Quoting.isWord = true) (opening : isOpening s = true)
    (second : u.IsSound) : IsSound (t ++ .text s :: u) := by
  have rest : IsTidy (.text s :: u) := tidy_cons.mpr ⟨List.all_eq_true.mp words, second.tidy⟩
  exact ⟨tidy_append.mpr ⟨first.tidy, rest⟩, spaced_behind first.spaced second.spaced opening⟩

theorem sound_enclose {before behind : String} {t : Template}
    (wordsBefore : before.toList.all Quoting.isWord = true)
    (wordsBehind : behind.toList.all Quoting.isWord = true) (opening : isOpening behind = true)
    (inner : t.IsSound) : IsSound (t.enclose before behind) :=
  sound_words wordsBefore (sound_behind inner wordsBehind opening sound_nil)

theorem sound_join {separator : String} {ts : List Template}
    (words : separator.toList.all Quoting.isWord = true) (opening : isOpening separator = true)
    (each : ∀ t ∈ ts, IsSound t) : IsSound (join separator ts) := by
  induction ts with
  | nil => exact sound_nil
  | cons t rest ih =>
    have first := each t List.mem_cons_self
    have tail := ih fun u member => each u (List.mem_cons_of_mem t member)
    cases rest with
    | nil => exact first
    | cons u rest => exact sound_behind first words opening tail

theorem sound_conjunction {ts : List Template} (each : ∀ t ∈ ts, IsSound t) :
    IsSound (conjunction ts) := by
  cases ts with
  | nil => exact sound_text rfl
  | cons t rest =>
    apply sound_join rfl rfl
    intro u member
    obtain ⟨inner, among, rfl⟩ := List.mem_map.mp member
    exact sound_enclose rfl rfl rfl (each inner among)

end Template

end Analytics
