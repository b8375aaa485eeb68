import Analytics.Json.Value
import Mathlib.Data.List.Nodup

/-!
Members of objects once they are sorted: keys and values are those that were given.
-/

namespace Analytics.Json

theorem lookup_cons (name key : String) (value : Json) (rest : List (String × Json)) :
    ((key, value) :: rest).lookup name = if name = key then some value else rest.lookup name := by
  rw [List.lookup_cons]
  by_cases here : name = key
  · rw [if_pos here, beq_iff_eq.mpr here]
  · rw [if_neg here, beq_eq_false_iff_ne.mpr here]

theorem lookup_insertMember (key : String) (value : Json) (sorted : List (String × Json))
    (name : String) : (insertMember key value sorted).lookup name =
      if name = key then some value else sorted.lookup name := by
  induction sorted with
  | nil => exact lookup_cons name key value []
  | cons m rest ih =>
    obtain ⟨k, v⟩ := m
    unfold insertMember
    split
    · rename_i same
      subst same
      simp only [lookup_cons]
      split <;> rfl
    split
    · exact lookup_cons name key value _
    · rename_i other _
      simp only [lookup_cons, ih]
      by_cases here : name = key
      · subst here
        simp only [if_neg other, if_true]
      · simp only [if_neg here]

/-- Putting members into a sorted list, one after the other. -/
def insertAll (sorted members : List (String × Json)) : List (String × Json) :=
  members.foldl (fun sorted m => insertMember m.1 m.2 sorted) sorted

theorem lookup_insertAll_absent {members : List (String × Json)} {name : String}
    (absent : name ∉ members.map (·.1)) (sorted : List (String × Json)) :
    (insertAll sorted members).lookup name = sorted.lookup name := by
  induction members generalizing sorted with
  | nil => rfl
  | cons m rest ih =>
    obtain ⟨other, later⟩ := not_or.mp (mt List.mem_cons.mpr absent)
    have tail : (insertAll (insertMember m.1 m.2 sorted) rest).lookup name
        = (insertMember m.1 m.2 sorted).lookup name := ih later _
    rw [lookup_insertMember, if_neg other] at tail
    exact tail

theorem lookup_sortMembers_last {before after : List (String × Json)} {name : String}
    (last : name ∉ after.map (·.1)) (value : Json) :
    (sortMembers (before ++ (name, value) :: after)).lookup name = some value := by
  have split : sortMembers (before ++ (name, value) :: after)
      = insertAll (insertMember name value (insertAll [] before)) after := List.foldl_append
  rw [split, lookup_insertAll_absent last, lookup_insertMember, if_pos rfl]

theorem lookup_sortMembers {members : List (String × Json)} (once : (members.map (·.1)).Nodup)
    {name : String} {value : Json} (member : (name, value) ∈ members) :
    (sortMembers members).lookup name = some value := by
  obtain ⟨before, after, rfl⟩ := List.append_of_mem member
  rw [List.map_append, List.map_cons] at once
  exact lookup_sortMembers_last (List.nodup_cons.mp (List.nodup_append'.mp once).2.1).1 value

theorem mem_insertMember {key : String} {value : Json} {sorted : List (String × Json)}
    {m : String × Json} (member : m ∈ insertMember key value sorted) :
    m = (key, value) ∨ m ∈ sorted := by
  induction sorted with
  | nil => exact Or.inl (List.mem_singleton.mp member)
  | cons first rest ih =>
    obtain ⟨k, v⟩ := first
    unfold insertMember at member
    split at member
    · exact (List.mem_cons.mp member).imp id (List.mem_cons_of_mem _)
    split at member
    · exact List.mem_cons.mp member
    · rcases List.mem_cons.mp member with rfl | later
      · exact Or.inr List.mem_cons_self
      · exact (ih later).imp id (List.mem_cons_of_mem _)

theorem mem_insertAll {sorted members : List (String × Json)} {m : String × Json}
    (member : m ∈ insertAll sorted members) : m ∈ sorted ∨ m ∈ members := by
  induction members generalizing sorted with
  | nil => exact Or.inl member
  | cons first rest ih =>
    rcases ih member with early | late
    · rcases mem_insertMember early with rfl | before
      · exact Or.inr List.mem_cons_self
      · exact Or.inl before
    · exact Or.inr (List.mem_cons_of_mem _ late)

theorem mem_sortMembers {members : List (String × Json)} {m : String × Json}
    (member : m ∈ sortMembers members) : m ∈ members :=
  (mem_insertAll member).resolve_left List.not_mem_nil

end Analytics.Json
