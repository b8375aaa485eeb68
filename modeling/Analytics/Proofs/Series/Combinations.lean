import Analytics.Series.Dense
import Mathlib.Data.List.Forall2
import Mathlib.Data.List.Nodup
import Mathlib.Data.String.Basic

/-!
Combinations, and lists in order. A combination has one choice from each list, and each combination
comes up once; sorting keeps the values of a list, each once.
-/

namespace Analytics

section

variable {α : Type} {lists : List (List α)}

theorem mem_combinations {choices : List α} :
    choices ∈ combinations lists ↔ List.Forall₂ (· ∈ ·) choices lists := by
  induction lists generalizing choices with
  | nil =>
    rw [List.forall₂_nil_right_iff]
    exact List.mem_singleton
  | cons first rest ih =>
    simp only [combinations, List.mem_flatMap, List.mem_map, ih, List.forall₂_cons_right_iff]
    constructor
    · rintro ⟨choice, among, others, matched, rfl⟩
      exact ⟨choice, others, among, matched, rfl⟩
    · rintro ⟨choice, others, among, matched, rfl⟩
      exact ⟨choice, among, others, matched, rfl⟩

theorem combinations_nodup (once : ∀ choices ∈ lists, choices.Nodup) :
    (combinations lists).Nodup := by
  induction lists with
  | nil => exact List.nodup_singleton []
  | cons first rest ih =>
    have later := ih fun choices member => once choices (List.mem_cons_of_mem first member)
    apply List.nodup_flatMap.mpr
    constructor
    · intro choice _
      exact later.map (List.cons_injective (a := choice))
    · refine (once first List.mem_cons_self).imp fun {a b} (other : a ≠ b) => ?_
      intro combination left right
      obtain ⟨_, _, rfl⟩ := List.mem_map.mp left
      obtain ⟨_, _, equal⟩ := List.mem_map.mp right
      exact other (List.cons.inj equal).1.symm

end

theorem GroupPlan.choices_nodup (g : GroupPlan) : g.choices.Nodup := by
  unfold choices
  split
  · exact List.nodup_singleton none
  · exact List.nodup_range.map fun _ _ => Option.some.inj

theorem branchSelections_nodup (groups : List GroupPlan) : (branchSelections groups).Nodup := by
  apply combinations_nodup
  intro choices member
  obtain ⟨g, _, rfl⟩ := List.mem_map.mp member
  exact g.choices_nodup

/-- Whether an order puts one of two different values before the other, and no value before itself. -/
structure IsStrictOrder {α : Type} (before : α → α → Bool) : Prop where
  irreflexive : ∀ a, before a a = false
  transitive : ∀ {a b c}, before a b = true → before b c = true → before a c = true
  total : ∀ {a b}, a ≠ b → before a b = false → before b a = true

theorem IsStrictOrder.nodup {α : Type} {before : α → α → Bool} (strict : IsStrictOrder before)
    {values : List α} (sorted : values.Pairwise fun b c => before b c = true) : values.Nodup := by
  refine sorted.imp fun {b c} ahead => ?_
  rintro rfl
  rw [strict.irreflexive] at ahead
  cases ahead

/-- Lists in order that have the same members are the same. -/
theorem IsStrictOrder.eq_of_sorted {α : Type} {before : α → α → Bool} (strict : IsStrictOrder before)
    {as bs : List α} (first : as.Pairwise fun a b => before a b = true)
    (second : bs.Pairwise fun a b => before a b = true) (members : ∀ a, a ∈ as ↔ a ∈ bs) :
    as = bs := by
  have perm : as.Perm bs :=
    (List.perm_ext_iff_of_nodup (strict.nodup first) (strict.nodup second)).mpr members
  apply perm.eq_of_pairwise _ first second
  intro a b _ _ ahead behind
  have own := strict.transitive ahead behind
  rw [strict.irreflexive] at own
  cases own

section

variable {α : Type} [DecidableEq α] {before : α → α → Bool}

theorem mem_insertSorted {a b : α} {sorted : List α} :
    b ∈ insertSorted before a sorted ↔ b = a ∨ b ∈ sorted := by
  induction sorted with
  | nil => exact List.mem_singleton.trans (or_iff_left List.not_mem_nil).symm
  | cons c rest ih =>
    unfold insertSorted
    split
    · rename_i same
      subst same
      exact ⟨Or.inr, fun either => either.elim (fun same => same ▸ List.mem_cons_self) id⟩
    split
    · exact List.mem_cons
    · rw [List.mem_cons, ih, List.mem_cons]
      exact or_left_comm

theorem mem_sortDistinct {a : α} {values : List α} :
    a ∈ sortDistinct before values ↔ a ∈ values := by
  induction values with
  | nil => exact Iff.rfl
  | cons b rest ih =>
    rw [List.mem_cons, ← ih]
    exact mem_insertSorted

theorem insertSorted_sorted (strict : IsStrictOrder before) (a : α) {sorted : List α}
    (held : sorted.Pairwise fun b c => before b c = true) :
    (insertSorted before a sorted).Pairwise fun b c => before b c = true := by
  induction held with
  | nil => exact List.pairwise_singleton _ a
  | @cons b rest first held ih =>
    unfold insertSorted
    split
    · exact List.pairwise_cons.mpr ⟨first, held⟩
    rename_i other
    split
    · rename_i ahead
      refine List.pairwise_cons.mpr ⟨?_, List.pairwise_cons.mpr ⟨first, held⟩⟩
      intro c member
      rcases List.mem_cons.mp member with rfl | later
      · exact ahead
      · exact strict.transitive ahead (first c later)
    · rename_i behind
      refine List.pairwise_cons.mpr ⟨?_, ih⟩
      intro c member
      rcases mem_insertSorted.mp member with rfl | later
      · exact strict.total other (Bool.eq_false_iff.mpr behind)
      · exact first c later

theorem sortDistinct_sorted (strict : IsStrictOrder before) (values : List α) :
    (sortDistinct before values).Pairwise fun b c => before b c = true := by
  induction values with
  | nil => exact List.Pairwise.nil
  | cons a rest ih => exact insertSorted_sorted strict a ih

theorem sortDistinct_nodup (strict : IsStrictOrder before) (values : List α) :
    (sortDistinct before values).Nodup := strict.nodup (sortDistinct_sorted strict values)

theorem sortDistinct_append (strict : IsStrictOrder before) {values others : List α}
    (sorted : values.Pairwise fun b c => before b c = true) (known : ∀ b ∈ others, b ∈ values) :
    sortDistinct before (values ++ others) = values := by
  apply strict.eq_of_sorted (sortDistinct_sorted strict _) sorted
  intro b
  rw [mem_sortDistinct, List.mem_append]
  exact ⟨fun either => either.elim id (known b), .inl⟩

theorem sortDistinct_single {values : List α} {a : α} (strict : IsStrictOrder before)
    (only : ∀ b ∈ values, b = a) (some : a ∈ values) : sortDistinct before values = [a] := by
  refine List.perm_singleton.mp ((List.perm_ext_iff_of_nodup (sortDistinct_nodup strict values)
    (List.nodup_singleton a)).mpr fun b => ?_)
  rw [mem_sortDistinct, List.mem_singleton]
  exact ⟨only b, fun same => same ▸ some⟩

end

theorem text_strict : IsStrictOrder fun a b : String => decide (a < b) where
  irreflexive a := decide_eq_false (lt_irrefl a)
  transitive ahead behind :=
    decide_eq_true (lt_trans (of_decide_eq_true ahead) (of_decide_eq_true behind))
  total other behind :=
    decide_eq_true ((lt_or_gt_of_ne other).resolve_left (of_decide_eq_false behind))

namespace GroupValue

theorem before_strict : IsStrictOrder before where
  irreflexive value := by
    cases value with
    | bucket i => exact decide_eq_false (lt_irrefl i)
    | label s => exact text_strict.irreflexive s
  transitive {a b c} ahead behind := by
    cases a with
    | bucket i =>
      cases c with
      | label u => rfl
      | bucket k =>
        cases b with
        | bucket j =>
          exact decide_eq_true (lt_trans (of_decide_eq_true ahead) (of_decide_eq_true behind))
        | label t => cases behind
    | label s =>
      cases b with
      | bucket j => cases ahead
      | label t =>
        cases c with
        | bucket k => cases behind
        | label u => exact text_strict.transitive ahead behind
  total {a b} other behind := by
    cases a with
    | bucket i =>
      cases b with
      | bucket j =>
        have different : i ≠ j := fun same => other (congrArg bucket same)
        exact decide_eq_true ((lt_or_gt_of_ne different).resolve_left (of_decide_eq_false behind))
      | label t => cases behind
    | label s =>
      cases b with
      | bucket j => rfl
      | label t => exact text_strict.total (fun same => other (congrArg label same)) behind

theorem combination_strict : IsStrictOrder combinationBefore where
  irreflexive key := by
    induction key with
    | nil => rfl
    | cons value rest ih => simp [combinationBefore, before_strict.irreflexive, ih]
  transitive {a b c} ahead behind := by
    induction a generalizing b c with
    | nil =>
      cases b with
      | nil => cases ahead
      | cons y ys =>
        cases c with
        | nil => cases behind
        | cons z zs => rfl
    | cons x xs ih =>
      cases b with
      | nil => cases ahead
      | cons y ys =>
        cases c with
        | nil => cases behind
        | cons z zs =>
          simp only [combinationBefore, Bool.or_eq_true, Bool.and_eq_true, decide_eq_true_eq]
            at ahead behind ⊢
          rcases ahead with less | ⟨rfl, less⟩
          · rcases behind with more | ⟨rfl, _⟩
            · exact Or.inl (before_strict.transitive less more)
            · exact Or.inl less
          · rcases behind with more | ⟨rfl, more⟩
            · exact Or.inl more
            · exact Or.inr ⟨rfl, ih less more⟩
  total {a b} other behind := by
    induction a generalizing b with
    | nil =>
      cases b with
      | nil => exact absurd rfl other
      | cons y ys => cases behind
    | cons x xs ih =>
      cases b with
      | nil => rfl
      | cons y ys =>
        simp only [combinationBefore, Bool.or_eq_false_iff, Bool.and_eq_false_iff,
          decide_eq_false_iff_not] at behind
        simp only [combinationBefore, Bool.or_eq_true, Bool.and_eq_true, decide_eq_true_eq]
        by_cases same : x = y
        · subst same
          have later := behind.2.resolve_left (not_not_intro rfl)
          exact Or.inr ⟨rfl, ih (fun equal => other (congrArg (x :: ·) equal)) later⟩
        · exact Or.inl (before_strict.total same behind.1)

end GroupValue

end Analytics
