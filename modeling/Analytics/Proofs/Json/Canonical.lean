import Analytics.Proofs.Json.Members
import Mathlib.Data.String.Basic

/-!
Canonical values. Members of an object stand in the order of their keys, each key once, and sorting
them again changes nothing. Main statement: the canonical form of a value is its own canonical
form.
-/

namespace Analytics.Json

/-- Whether keys stand in their order, each of them once. -/
def IsSorted (members : List (String × Json)) : Prop := members.Pairwise fun m n => m.1 < n.1

variable {members sorted : List (String × Json)}

theorem isSorted_insertMember (ordered : IsSorted sorted) (key : String) (value : Json) :
    IsSorted (insertMember key value sorted) := by
  unfold IsSorted at *
  induction sorted with
  | nil => exact List.pairwise_singleton _ _
  | cons first rest ih =>
    obtain ⟨k, v⟩ := first
    obtain ⟨least, later⟩ := List.pairwise_cons.mp ordered
    unfold insertMember
    split_ifs with same before
    · subst same
      exact List.pairwise_cons.mpr ⟨least, later⟩
    · refine List.pairwise_cons.mpr ⟨fun m member => ?_, ordered⟩
      rcases List.mem_cons.mp member with rfl | member
      · exact before
      · exact lt_trans before (least m member)
    · refine List.pairwise_cons.mpr ⟨fun m member => ?_, ih later⟩
      rcases mem_insertMember member with rfl | member
      · exact lt_of_le_of_ne (not_lt.mp before) (Ne.symm same)
      · exact least m member

theorem isSorted_sortMembers (members : List (String × Json)) : IsSorted (sortMembers members) := by
  have all (sorted : List (String × Json)) (ordered : IsSorted sorted) :
      IsSorted (insertAll sorted members) := by
    induction members generalizing sorted with
    | nil => exact ordered
    | cons m rest ih => exact ih _ (isSorted_insertMember ordered m.1 m.2)
  exact all [] List.Pairwise.nil

theorem insertMember_last {key : String} (behind : ∀ m ∈ sorted, m.1 < key) (value : Json) :
    insertMember key value sorted = sorted ++ [(key, value)] := by
  induction sorted with
  | nil => rfl
  | cons first rest ih =>
    obtain ⟨k, v⟩ := first
    obtain ⟨less, later⟩ := List.forall_mem_cons.mp behind
    rw [insertMember, if_neg less.ne', if_neg (lt_asymm less), ih later, List.cons_append]

theorem sortMembers_sorted (ordered : IsSorted members) : sortMembers members = members := by
  have all (front later : List (String × Json)) (ordered : IsSorted (front ++ later)) :
      insertAll front later = front ++ later := by
    induction later generalizing front with
    | nil => exact (List.append_nil front).symm
    | cons m rest ih =>
      have behind : ∀ n ∈ front, n.1 < m.1 := fun n member =>
        (List.pairwise_append.mp ordered).2.2 n member m List.mem_cons_self
      have step : insertAll front (m :: rest) = insertAll (insertMember m.1 m.2 front) rest := rfl
      rw [List.append_cons] at ordered
      rw [step, insertMember_last behind, ih _ ordered, ← List.append_cons]
  exact all [] members ordered

theorem canonicalMembers_eq_map (members : List (String × Json)) :
    canonicalMembers members = members.map fun m => (m.1, canonical m.2) := by
  induction members with
  | nil => rfl
  | cons m rest ih => rw [canonicalMembers, ih, List.map_cons]

theorem canonicalMembers_kept (kept : ∀ m ∈ members, canonical m.2 = m.2) :
    canonicalMembers members = members := by
  have same : ∀ m ∈ members, (m.1, canonical m.2) = id m := fun m member =>
    Prod.ext rfl (kept m member)
  rw [canonicalMembers_eq_map, List.map_congr_left same, List.map_id]

mutual

theorem canonical_canonical : (j : Json) → j.canonical.canonical = j.canonical
  | .null | .bool _ | .int _ | .float _ | .text _ => rfl
  | .array items => congrArg Json.array (canonicalItems_canonical items)
  | .object members => by
    have values := canonicalMembers_canonical members
    rw [canonical, canonical,
      canonicalMembers_kept fun m member => values m (mem_sortMembers member),
      sortMembers_sorted (isSorted_sortMembers _)]

theorem canonicalItems_canonical : (items : List Json) →
    canonicalItems (canonicalItems items) = canonicalItems items
  | [] => rfl
  | item :: rest =>
    congrArg₂ List.cons (canonical_canonical item) (canonicalItems_canonical rest)

theorem canonicalMembers_canonical : (members : List (String × Json)) →
    ∀ m ∈ canonicalMembers members, canonical m.2 = m.2
  | [] => fun _ member => absurd member List.not_mem_nil
  | (_, value) :: rest => fun m member => by
    rcases List.mem_cons.mp member with rfl | member
    · exact canonical_canonical value
    · exact canonicalMembers_canonical rest m member

end

end Analytics.Json
