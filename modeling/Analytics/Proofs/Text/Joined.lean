import Mathlib.Data.List.Basic

/-!
Texts joined by dashes. Lists of texts that are joined to one text are equal, unless a dash stands in
texts of them. Main statement: where two lists of one length are joined to one text, one's text at the
first place that differs goes on behind the other's and a dash, and at the last one it stands behind more
and a dash.
-/

namespace Analytics.Text

def Leads (s t : String) : Prop := ∃ u, t = s ++ "-" ++ u

def Trails (s t : String) : Prop := ∃ u, t = u ++ "-" ++ s

/-- Whether two lists differ from a first place to a later last one, where one's text leads the other's
at the first and trails it at the last. -/
def Entangled (ps qs : List String) : Prop :=
  ∃ i j : Nat, i < j ∧ (∀ k, k < i ∨ j < k → ps[k]? = qs[k]?) ∧
    (∃ s t, ps[i]? = some s ∧ qs[i]? = some t ∧ (Leads s t ∨ Leads t s)) ∧
    ∃ s t, ps[j]? = some s ∧ qs[j]? = some t ∧ (Trails s t ∨ Trails t s)

/-- Whether some place parts the places of lists: before it no text leads one of the same place, and
behind it none trails one. -/
def Untangled (lists : List (List String)) : Prop :=
  ∃ k, ∀ ps ∈ lists, ∀ qs ∈ lists, (∀ pair ∈ (ps.zip qs).take k, ¬Leads pair.1 pair.2) ∧
    ∀ pair ∈ (ps.zip qs).drop (k + 1), ¬Trails pair.1 pair.2

theorem Untangled.apart {lists : List (List String)} (free : Untangled lists) {ps qs : List String}
    (first : ps ∈ lists) (second : qs ∈ lists) : ¬Entangled ps qs := by
  obtain ⟨k, free⟩ := free
  rintro ⟨i, j, before, _, ⟨s, t, left, right, leads⟩, s', t', left', right', trails⟩
  have pair {ps qs : List String} {i : Nat} {s t : String} (left : ps[i]? = some s)
      (right : qs[i]? = some t) : (ps.zip qs)[i]? = some (s, t) :=
    List.getElem?_zip_eq_some.mpr ⟨left, right⟩
  by_cases early : i < k
  · have among {ps qs : List String} {s t : String} (left : ps[i]? = some s)
        (right : qs[i]? = some t) : (s, t) ∈ (ps.zip qs).take k :=
      List.mem_iff_getElem?.mpr ⟨i, (List.getElem?_take_of_lt early).trans (pair left right)⟩
    rcases leads with leads | leads
    · exact (free ps first qs second).1 _ (among left right) leads
    · exact (free qs second ps first).1 _ (among right left) leads
  · obtain ⟨n, place⟩ : ∃ n, j = k + 1 + n := ⟨j - (k + 1), by omega⟩
    have among {ps qs : List String} {s t : String} (left : ps[j]? = some s)
        (right : qs[j]? = some t) : (s, t) ∈ (ps.zip qs).drop (k + 1) :=
      List.mem_iff_getElem?.mpr ⟨n, List.getElem?_drop.trans (place ▸ pair left right)⟩
    rcases trails with trails | trails
    · exact (free ps first qs second).2 _ (among left' right') trails
    · exact (free qs second ps first).2 _ (among right' left') trails

theorem leads_iff {s t : String} : Leads s t ↔ s.toList ++ ['-'] <+: t.toList := by
  constructor
  · rintro ⟨u, rfl⟩
    exact ⟨u.toList, by rw [String.toList_append, String.toList_append]; rfl⟩
  · rintro ⟨u, longer⟩
    refine ⟨String.ofList u, String.toList_injective ?_⟩
    rw [← longer, String.toList_append, String.toList_append]
    exact congrArg (s.toList ++ ['-'] ++ ·) String.toList_ofList.symm

theorem trails_iff {s t : String} : Trails s t ↔ '-' :: s.toList <:+ t.toList := by
  constructor
  · rintro ⟨u, rfl⟩
    exact ⟨u.toList, by rw [String.toList_append, String.toList_append, List.append_assoc]; rfl⟩
  · rintro ⟨u, longer⟩
    refine ⟨String.ofList u, String.toList_injective ?_⟩
    rw [← longer, String.toList_append, String.toList_append, List.append_assoc]
    exact congrArg (· ++ '-' :: s.toList) String.toList_ofList.symm

instance (s t : String) : Decidable (Leads s t) := decidable_of_iff _ leads_iff.symm

instance (s t : String) : Decidable (Trails s t) := decidable_of_iff _ trails_iff.symm

/-- Lists parted by a character are parted at the same place, or the character stands in the longer
front. -/
theorem parted {c : Char} {s t u v : List Char} (same : s ++ c :: u = t ++ c :: v) :
    s = t ∨ (∃ w, t = s ++ c :: w) ∨ ∃ w, s = t ++ c :: w := by
  rcases List.append_eq_append_iff.mp same with ⟨w, rfl, rest⟩ | ⟨w, rfl, rest⟩
  · cases w with
    | nil => exact .inl (List.append_nil s).symm
    | cons d w => exact .inr (.inl ⟨w, by rw [(List.cons.inj rest).1]⟩)
  · cases w with
    | nil => exact .inl (List.append_nil t)
    | cons d w => exact .inr (.inr ⟨w, by rw [(List.cons.inj rest).1]⟩)

theorem leads_of_joined {s t u v : String} (same : s ++ "-" ++ u = t ++ "-" ++ v) (differ : s ≠ t) :
    Leads s t ∨ Leads t s := by
  have chars : s.toList ++ '-' :: u.toList = t.toList ++ '-' :: v.toList := by
    have read := congrArg String.toList same
    simp only [String.toList_append, List.append_assoc] at read
    exact read
  rw [leads_iff, leads_iff]
  rcases parted chars with equal | ⟨w, longer⟩ | ⟨w, longer⟩
  · exact absurd (String.toList_injective equal) differ
  · exact .inl ⟨w, by rw [longer, List.append_assoc, List.singleton_append]⟩
  · exact .inr ⟨w, by rw [longer, List.append_assoc, List.singleton_append]⟩

theorem trails_of_joined {s t u v : String} (same : u ++ "-" ++ s = v ++ "-" ++ t) (differ : s ≠ t) :
    Trails s t ∨ Trails t s := by
  have chars : s.toList.reverse ++ '-' :: u.toList.reverse
      = t.toList.reverse ++ '-' :: v.toList.reverse := by
    have read := congrArg (fun text => text.toList.reverse) same
    simp only [String.toList_append, List.reverse_append] at read
    exact read
  have longest {s t : String} {w : List Char}
      (longer : t.toList.reverse = s.toList.reverse ++ '-' :: w) : Trails s t := by
    refine trails_iff.mpr (List.reverse_prefix.mp ⟨w, ?_⟩)
    rw [longer, List.reverse_cons, List.append_assoc, List.singleton_append]
  rcases parted chars with equal | ⟨w, longer⟩ | ⟨w, longer⟩
  · exact absurd (String.toList_injective (List.reverse_inj.mp equal)) differ
  · exact .inl (longest longer)
  · exact .inr (longest longer)

theorem intercalate_append {ps qs : List String} (some : ps ≠ []) (some' : qs ≠ []) :
    String.intercalate "-" (ps ++ qs)
      = String.intercalate "-" ps ++ "-" ++ String.intercalate "-" qs := by
  obtain ⟨q, qs, rfl⟩ := List.exists_cons_of_ne_nil some'
  induction ps with
  | nil => exact absurd rfl some
  | cons p ps ih =>
    cases ps with
    | nil => rw [String.intercalate_singleton, List.singleton_append, String.intercalate_cons_cons]
    | cons next ps =>
      rw [List.cons_append, List.cons_append, String.intercalate_cons_cons,
        String.intercalate_cons_cons, ← List.cons_append, ih (List.cons_ne_nil _ _)]
      simp only [String.append_assoc]

theorem intercalate_cancel_left {front ps qs : List String} (some : ps ≠ []) (some' : qs ≠ [])
    (same : String.intercalate "-" (front ++ ps) = String.intercalate "-" (front ++ qs)) :
    String.intercalate "-" ps = String.intercalate "-" qs := by
  by_cases none : front = []
  · subst none
    exact same
  · rw [intercalate_append none some, intercalate_append none some'] at same
    exact String.append_right_inj _ |>.mp same

theorem intercalate_cancel_right {ps qs back : List String} (some : ps ≠ []) (some' : qs ≠ [])
    (same : String.intercalate "-" (ps ++ back) = String.intercalate "-" (qs ++ back)) :
    String.intercalate "-" ps = String.intercalate "-" qs := by
  by_cases none : back = []
  · subst none
    rwa [List.append_nil, List.append_nil] at same
  · rw [intercalate_append some none, intercalate_append some' none, String.append_assoc,
      String.append_assoc] at same
    exact String.append_left_inj _ |>.mp same

theorem exists_first {α : Type} {xs ys : List α} (long : xs.length = ys.length) (differ : xs ≠ ys) :
    ∃ front x y xs' ys', xs = front ++ x :: xs' ∧ ys = front ++ y :: ys' ∧ x ≠ y := by
  induction xs generalizing ys with
  | nil => exact absurd (List.length_eq_zero_iff.mp long.symm).symm differ
  | cons x xs ih =>
    obtain ⟨y, ys, rfl⟩ := List.exists_cons_of_length_eq_add_one long.symm
    by_cases same : x = y
    · subst same
      obtain ⟨front, x', y', xs', ys', rfl, rfl, other⟩ :=
        ih (Nat.succ.inj long) fun equal => differ (congrArg _ equal)
      exact ⟨x :: front, x', y', xs', ys', rfl, rfl, other⟩
    · exact ⟨[], x, y, xs, ys, rfl, rfl, same⟩

theorem exists_last {α : Type} {xs ys : List α} (long : xs.length = ys.length) (differ : xs ≠ ys) :
    ∃ xs' ys' x y back, xs = xs' ++ x :: back ∧ ys = ys' ++ y :: back ∧ x ≠ y := by
  have long' : xs.reverse.length = ys.reverse.length := by
    rw [List.length_reverse, List.length_reverse, long]
  obtain ⟨front, x, y, xs', ys', left, right, other⟩ :=
    exists_first long' fun same => differ (List.reverse_inj.mp same)
  refine ⟨xs'.reverse, ys'.reverse, x, y, front.reverse, ?_, ?_, other⟩
  · rw [← List.reverse_inj, left]
    simp
  · rw [← List.reverse_inj, right]
    simp

theorem leads_of_intercalate {p q : String} {ps qs : List String} (some : ps ≠ []) (some' : qs ≠ [])
    (same : String.intercalate "-" (p :: ps) = String.intercalate "-" (q :: qs)) (differ : p ≠ q) :
    Leads p q ∨ Leads q p := by
  have left := intercalate_append (List.cons_ne_nil p []) some
  have right := intercalate_append (List.cons_ne_nil q []) some'
  rw [List.singleton_append, String.intercalate_singleton] at left right
  rw [left, right] at same
  exact leads_of_joined same differ

theorem trails_of_intercalate {s t : String} {ps qs : List String} (some : ps ≠ []) (some' : qs ≠ [])
    (same : String.intercalate "-" (ps ++ [s]) = String.intercalate "-" (qs ++ [t])) (differ : s ≠ t) :
    Trails s t ∨ Trails t s := by
  rw [intercalate_append some (List.cons_ne_nil s []), intercalate_append some' (List.cons_ne_nil t []),
    String.intercalate_singleton, String.intercalate_singleton] at same
  exact trails_of_joined same differ

theorem getElem?_behind {α : Type} {front : List α} (x : α) (back : List α) {k : Nat}
    (behind : front.length < k) : (front ++ x :: back)[k]? = back[k - front.length - 1]? := by
  obtain ⟨n, rfl⟩ := Nat.exists_eq_add_of_lt behind
  rw [Nat.add_assoc, List.getElem?_append_right (Nat.le_add_right _ _), Nat.add_sub_cancel_left,
    List.getElem?_cons_succ, Nat.add_sub_cancel]

theorem entangled_of_joined {ps qs : List String} (long : ps.length = qs.length)
    (same : String.intercalate "-" ps = String.intercalate "-" qs) (differ : ps ≠ qs) :
    Entangled ps qs := by
  obtain ⟨front, p, q, ps, qs, rfl, rfl, first⟩ := exists_first long differ
  have rest := intercalate_cancel_left (List.cons_ne_nil p ps) (List.cons_ne_nil q qs) same
  -- One difference alone would show in the joined texts.
  have later : ps ≠ qs := by
    rintro rfl
    have cut := intercalate_cancel_right (List.cons_ne_nil p []) (List.cons_ne_nil q []) rest
    rw [String.intercalate_singleton, String.intercalate_singleton] at cut
    exact first cut
  simp only [List.length_append, List.length_cons, Nat.add_left_cancel_iff, Nat.add_right_cancel_iff]
    at long
  obtain ⟨ps, qs, s, t, back, rfl, rfl, last⟩ := exists_last long later
  simp only [List.length_append, List.length_cons, Nat.add_right_cancel_iff] at long
  have whole (p s : String) (ps : List String) :
      front ++ p :: (ps ++ s :: back) = (front ++ p :: ps) ++ s :: back := by
    rw [List.append_assoc, List.cons_append]
  have leads := leads_of_intercalate (List.append_ne_nil_of_right_ne_nil ps (List.cons_ne_nil s back))
    (List.append_ne_nil_of_right_ne_nil qs (List.cons_ne_nil t back)) rest first
  have trails : Trails s t ∨ Trails t s := by
    rw [whole, whole, List.append_cons, List.append_cons _ t] at same
    have cut := intercalate_cancel_right
      (List.append_ne_nil_of_right_ne_nil _ (List.cons_ne_nil s []))
      (List.append_ne_nil_of_right_ne_nil _ (List.cons_ne_nil t [])) same
    exact trails_of_intercalate (List.append_ne_nil_of_right_ne_nil front (List.cons_ne_nil p ps))
      (List.append_ne_nil_of_right_ne_nil front (List.cons_ne_nil q qs)) cut last
  have place : (front ++ p :: ps).length = (front ++ q :: qs).length := by
    rw [List.length_append, List.length_append, List.length_cons, List.length_cons, long]
  refine ⟨front.length, (front ++ p :: ps).length, ?_, ?_, ⟨p, q, ?_, ?_, leads⟩, s, t, ?_, ?_, trails⟩
  · simp
  · rintro k (before | after)
    · rw [List.getElem?_append_left before, List.getElem?_append_left before]
    · rw [whole, whole, getElem?_behind s back after, getElem?_behind t back (place ▸ after), place]
  · simp
  · simp
  · rw [whole, List.getElem?_append_right (Nat.le_refl _), Nat.sub_self, List.getElem?_cons_zero]
  · rw [whole, place, List.getElem?_append_right (Nat.le_refl _), Nat.sub_self, List.getElem?_cons_zero]

end Analytics.Text
