import Analytics.Proofs.Store.Gather
import Mathlib.Data.Finset.Card

/-!
Lists that say the same again. A list mirrors another one if each item of either has a match in the
other, and echoes it if it is the other one with further items behind ones that they match. Joins
and conditions keep both, and there are as many distinct values in a mirror as in the list.
-/

namespace Analytics

section

variable {α β : Type} {R : α → α → Prop} {S : β → β → Prop} {as bs : List α}

/-- Whether each item of either list has a match in the other one. -/
structure Mirrors (R : α → α → Prop) (as bs : List α) : Prop where
  there : ∀ a ∈ as, ∃ b ∈ bs, R a b
  back : ∀ b ∈ bs, ∃ a ∈ as, R a b

/-- Whether the second list matches the first one item by item, but for items put in behind ones
that they match. -/
inductive Echoes (R : α → α → Prop) : List α → List α → Prop
  | nil : Echoes R [] []
  | next {as bs : List α} {a b : α} (before : Echoes R as bs) (own : R a b) :
    Echoes R (as ++ [a]) (bs ++ [b])
  | again {as bs : List α} {a b : α} (before : Echoes R as bs) (known : a ∈ as) (own : R a b) :
    Echoes R as (bs ++ [b])

namespace Mirrors

theorem nil_iff (mirrors : Mirrors R as bs) : as = [] ↔ bs = [] := by
  simp only [List.eq_nil_iff_forall_not_mem]
  constructor
  · intro none b member
    obtain ⟨a, among, _⟩ := mirrors.back b member
    exact none a among
  · intro none a member
    obtain ⟨b, among, _⟩ := mirrors.there a member
    exact none b among

theorem map {f g : α → β} (mirrors : Mirrors R as bs) (same : ∀ a b, R a b → S (f a) (g b)) :
    Mirrors S (as.map f) (bs.map g) := by
  constructor
  · intro c member
    obtain ⟨a, among, rfl⟩ := List.mem_map.mp member
    obtain ⟨b, inside, own⟩ := mirrors.there a among
    exact ⟨g b, List.mem_map_of_mem inside, same a b own⟩
  · intro d member
    obtain ⟨b, among, rfl⟩ := List.mem_map.mp member
    obtain ⟨a, inside, own⟩ := mirrors.back b among
    exact ⟨f a, List.mem_map_of_mem inside, same a b own⟩

theorem flatMap {f g : α → List β} (mirrors : Mirrors R as bs)
    (same : ∀ a b, R a b → Mirrors S (f a) (g b)) : Mirrors S (as.flatMap f) (bs.flatMap g) := by
  constructor
  · intro c member
    obtain ⟨a, among, here⟩ := List.mem_flatMap.mp member
    obtain ⟨b, inside, own⟩ := mirrors.there a among
    obtain ⟨d, matched, both⟩ := (same a b own).there c here
    exact ⟨d, List.mem_flatMap.mpr ⟨b, inside, matched⟩, both⟩
  · intro d member
    obtain ⟨b, among, here⟩ := List.mem_flatMap.mp member
    obtain ⟨a, inside, own⟩ := mirrors.back b among
    obtain ⟨c, matched, both⟩ := (same a b own).back d here
    exact ⟨c, List.mem_flatMap.mpr ⟨a, inside, matched⟩, both⟩

theorem append {as' bs' : List α} (first : Mirrors R as bs) (second : Mirrors R as' bs') :
    Mirrors R (as ++ as') (bs ++ bs') := by
  constructor
  · intro a member
    rcases List.mem_append.mp member with early | late
    · obtain ⟨b, among, own⟩ := first.there a early
      exact ⟨b, List.mem_append_left _ among, own⟩
    · obtain ⟨b, among, own⟩ := second.there a late
      exact ⟨b, List.mem_append_right _ among, own⟩
  · intro b member
    rcases List.mem_append.mp member with early | late
    · obtain ⟨a, among, own⟩ := first.back b early
      exact ⟨a, List.mem_append_left _ among, own⟩
    · obtain ⟨a, among, own⟩ := second.back b late
      exact ⟨a, List.mem_append_right _ among, own⟩

theorem any_eq {p q : α → Bool} (mirrors : Mirrors R as bs)
    (same : ∀ a b, R a b → p a = q b) : as.any p = bs.any q := by
  rw [Bool.eq_iff_iff, List.any_eq_true, List.any_eq_true]
  constructor
  · rintro ⟨a, member, held⟩
    obtain ⟨b, among, own⟩ := mirrors.there a member
    exact ⟨b, among, (same a b own).symm.trans held⟩
  · rintro ⟨b, member, held⟩
    obtain ⟨a, among, own⟩ := mirrors.back b member
    exact ⟨a, among, (same a b own).trans held⟩

end Mirrors

namespace Echoes

theorem mirrors (echoes : Echoes R as bs) : Mirrors R as bs := by
  induction echoes with
  | nil => exact ⟨fun a member => absurd member List.not_mem_nil,
      fun b member => absurd member List.not_mem_nil⟩
  | @next as bs a b _ own ih =>
    have last : Mirrors R [a] [b] :=
      ⟨List.forall_mem_singleton.mpr ⟨b, List.mem_cons_self, own⟩,
        List.forall_mem_singleton.mpr ⟨a, List.mem_cons_self, own⟩⟩
    exact ih.append last
  | @again as bs a b _ known own ih =>
    refine ⟨fun a member => ?_, List.forall_mem_append.mpr
      ⟨ih.back, List.forall_mem_singleton.mpr ⟨a, known, own⟩⟩⟩
    obtain ⟨b, among, matched⟩ := ih.there a member
    exact ⟨b, List.mem_append_left _ among, matched⟩

theorem append {as' bs' : List α} (first : Echoes R as bs) (second : Echoes R as' bs') :
    Echoes R (as ++ as') (bs ++ bs') := by
  induction second with
  | nil => simpa using first
  | next _ own ih =>
    rw [← List.append_assoc, ← List.append_assoc]
    exact .next ih own
  | again _ known own ih =>
    rw [← List.append_assoc]
    exact .again ih (List.mem_append_right _ known) own

theorem behind {more : List α} (echoes : Echoes R as bs) (known : ∀ b ∈ more, ∃ a ∈ as, R a b) :
    Echoes R as (bs ++ more) := by
  induction more using List.reverseRecOn with
  | nil => simpa using echoes
  | append_singleton more b ih =>
    obtain ⟨early, last⟩ := List.forall_mem_append.mp known
    obtain ⟨a, member, own⟩ := last b List.mem_cons_self
    rw [← List.append_assoc]
    exact .again (ih early) member own

theorem flatMap {f g : α → List β} (echoes : Echoes R as bs)
    (same : ∀ a b, R a b → Echoes S (f a) (g b)) : Echoes S (as.flatMap f) (bs.flatMap g) := by
  induction echoes with
  | nil => exact .nil
  | next _ own ih =>
    rw [List.flatMap_append, List.flatMap_append, List.flatMap_singleton, List.flatMap_singleton]
    exact ih.append (same _ _ own)
  | @again as bs a b _ known own ih =>
    rw [List.flatMap_append, List.flatMap_singleton]
    refine ih.behind fun d member => ?_
    obtain ⟨c, among, matched⟩ := (same a b own).mirrors.back d member
    exact ⟨c, List.mem_flatMap.mpr ⟨a, known, among⟩, matched⟩

theorem map {f g : α → β} (echoes : Echoes R as bs) (same : ∀ a b, R a b → S (f a) (g b)) :
    Echoes S (as.map f) (bs.map g) := by
  induction echoes with
  | nil => exact .nil
  | next _ own ih =>
    rw [List.map_append, List.map_append]
    exact .next ih (same _ _ own)
  | again _ known own ih =>
    rw [List.map_append]
    exact .again ih (List.mem_map_of_mem known) (same _ _ own)

theorem head (echoes : Echoes R as bs) : ∀ a ∈ as.head?, ∀ b ∈ bs.head?, R a b := by
  induction echoes with
  | nil => exact fun a none => nomatch none
  | @next as bs a b before own ih =>
    cases as with
    | nil =>
      rw [before.mirrors.nil_iff.mp rfl]
      intro c first d last
      cases first
      cases last
      exact own
    | cons first rest =>
      cases bs with
      | nil => cases before.mirrors.nil_iff.mpr rfl
      | cons other others => exact ih
  | @again as bs a b before known own ih =>
    cases bs with
    | nil =>
      rw [before.mirrors.nil_iff.mpr rfl] at known
      cases known
    | cons other others => exact ih

end Echoes

end

/-- A way for a list to follow another one that is kept when items are replaced by lists. -/
structure Following {α : Type} (R : α → α → Prop) (Φ : List α → List α → Prop) : Prop where
  nil : Φ [] []
  single : ∀ {a b}, R a b → Φ [a] [b]
  append : ∀ {as bs as' bs'}, Φ as bs → Φ as' bs' → Φ (as ++ as') (bs ++ bs')
  flatMap : ∀ {as bs} {f g : α → List α}, Φ as bs → (∀ a b, R a b → Φ (f a) (g b)) →
    Φ (as.flatMap f) (bs.flatMap g)
  mirrors : ∀ {as bs}, Φ as bs → Mirrors R as bs

namespace Following

variable {α γ : Type} {R : α → α → Prop} {Φ : List α → List α → Prop} {as bs : List α}

theorem of_mirrors (R : α → α → Prop) : Following R (Mirrors R) where
  nil := Echoes.nil.mirrors
  single own := (Echoes.next .nil own).mirrors
  append := Mirrors.append
  flatMap := Mirrors.flatMap
  mirrors mirrors := mirrors

theorem of_echoes (R : α → α → Prop) : Following R (Echoes R) where
  nil := .nil
  single own := .next .nil own
  append := Echoes.append
  flatMap := Echoes.flatMap
  mirrors := Echoes.mirrors

theorem filter (following : Following R Φ) {p q : α → Bool} (follows : Φ as bs)
    (same : ∀ a b, R a b → p a = q b) : Φ (as.filter p) (bs.filter q) := by
  have chosen (p : α → Bool) (as : List α) :
      as.filter p = as.flatMap fun a => if p a then [a] else [] := by
    induction as with
    | nil => rfl
    | cons a rest ih =>
      rw [List.filter_cons, List.flatMap_cons, ih]
      cases p a <;> rfl
  rw [chosen p, chosen q]
  refine following.flatMap follows fun a b own => ?_
  rw [same a b own]
  cases q b with
  | true => exact following.single own
  | false => exact following.nil

theorem pairwise (following : Following R Φ) {f g : γ → α} (items : List γ)
    (same : ∀ c ∈ items, R (f c) (g c)) : Φ (items.map f) (items.map g) := by
  induction items with
  | nil => exact following.nil
  | cons c rest ih =>
    obtain ⟨own, later⟩ := List.forall_mem_cons.mp same
    exact following.append (following.single own) (ih later)

end Following

namespace Cell

def sameSetoid : Setoid Cell where
  r c d := same c d = true
  iseqv := by
    refine ⟨same_self, fun {c d} own => (same_comm d c).trans own, fun {c d e} first second => ?_⟩
    have both : order c e = .eq := Std.TransCmp.eq_trans (of_decide_eq_true first)
      (of_decide_eq_true second)
    exact decide_eq_true both

instance : DecidableEq (Quotient sameSetoid) :=
  @Quotient.decidableEq Cell sameSetoid fun c d => inferInstanceAs (Decidable (same c d = true))

def classes (cells : List Cell) : Finset (Quotient sameSetoid) :=
  (cells.map (Quotient.mk sameSetoid)).toFinset

theorem mem_classes {cells : List Cell} {c : Cell} :
    Quotient.mk sameSetoid c ∈ classes cells ↔ cells.any (same c) = true := by
  unfold classes
  rw [List.mem_toFinset, List.mem_map, List.any_eq_true]
  refine exists_congr fun d => and_congr_right fun _ => ?_
  rw [same_comm]
  exact Quotient.eq (r := sameSetoid)

theorem classes_cons (c : Cell) (cells : List Cell) :
    classes (c :: cells) = insert (Quotient.mk sameSetoid c) (classes cells) := List.toFinset_cons

theorem classes_perm {cells others : List Cell} (same : cells.Perm others) :
    classes cells = classes others :=
  List.toFinset_eq_of_perm _ _ (same.map _)

end Cell

theorem card_distinctCells (seen cells : List Cell) :
    (distinctCells seen cells).length + (Cell.classes seen).card
      = (Cell.classes (seen ++ cells)).card := by
  induction cells generalizing seen with
  | nil => simp [distinctCells]
  | cons c rest ih =>
    have moved : Cell.classes (seen ++ c :: rest) = Cell.classes (c :: seen ++ rest) :=
      Cell.classes_perm List.perm_middle
    rw [moved, distinctCells]
    by_cases known : seen.any (Cell.same c) = true
    · have inside : Quotient.mk Cell.sameSetoid c ∈ Cell.classes (seen ++ rest) := by
        rw [Cell.mem_classes, List.any_append, known, Bool.true_or]
      rw [if_pos known, ih, List.cons_append, Cell.classes_cons, Finset.insert_eq_of_mem inside]
    · have fresh : Quotient.mk Cell.sameSetoid c ∉ Cell.classes seen := mt Cell.mem_classes.mp known
      rw [if_neg known, ← ih, Cell.classes_cons, Finset.card_insert_of_notMem fresh,
        List.length_cons]
      omega

theorem length_distinctCells {cells others : List Cell} (same : Mirrors Eq cells others) :
    (distinctCells [] cells).length = (distinctCells [] others).length := by
  have members (c : Cell) : c ∈ cells ↔ c ∈ others := by
    constructor
    · intro member
      obtain ⟨_, among, rfl⟩ := same.there c member
      exact among
    · intro member
      obtain ⟨_, among, rfl⟩ := same.back c member
      exact among
  have classes : Cell.classes cells = Cell.classes others := by
    unfold Cell.classes
    ext c
    simp only [List.mem_toFinset, List.mem_map, members]
  have own := card_distinctCells [] cells
  have other := card_distinctCells [] others
  rw [List.nil_append] at own other
  rw [classes, ← other] at own
  exact Nat.add_right_cancel own

end Analytics
