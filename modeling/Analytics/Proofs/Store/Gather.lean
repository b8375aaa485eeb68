import Analytics.Proofs.Store.Order
import Mathlib.Data.List.Induction
import Mathlib.Data.List.Nodup

/-!
Groups of rows. Where a store takes no two different keys for the same, rows fall into one group for
each key, which has all the rows of the key in their order. Texts, whole numbers and nulls are such
keys.
-/

namespace Analytics

namespace Cell

def isExact : Cell → Bool
  | .null | .int _ | .text _ => true
  | _ => false

theorem same_exact {c d : Cell} (left : c.isExact = true) (right : d.isExact = true) :
    same c d = decide (c = d) := by
  cases c <;> cases left <;> cases d <;> cases right <;> simp [same, order]

end Cell

/-- Whether rows whose keys the store takes for the same have equal keys. -/
def KeysTold {α : Type} (keyed : List (List Cell × α)) : Prop :=
  ∀ row ∈ keyed, ∀ other ∈ keyed, sameKey row.1 other.1 = true → row.1 = other.1

theorem keysTold_iff {α : Type} {key : α → List Cell} {as : List α} :
    KeysTold (as.map fun a => (key a, a)) ↔
      ∀ a ∈ as, ∀ b ∈ as, sameKey (key a) (key b) = true → key a = key b := by
  simp only [KeysTold, List.forall_mem_map]

theorem keyed_rows {α : Type} (key : α → List Cell) (as : List α) (k : List Cell) :
    ((as.map fun a => (key a, a)).filter (·.1 = k)).map (·.2) = as.filter fun a => key a = k := by
  rw [List.filter_map, List.map_map]
  exact List.map_id _

theorem exact_keys {k key : List Cell} (left : ∀ c ∈ k, c.isExact = true)
    (right : ∀ c ∈ key, c.isExact = true) (same : sameKey k key = true) : k = key := by
  induction k generalizing key with
  | nil =>
    cases key with
    | nil => rfl
    | cons d others => cases same
  | cons c rest ih =>
    cases key with
    | nil => cases same
    | cons d others =>
      obtain ⟨own, left⟩ := List.forall_mem_cons.mp left
      obtain ⟨other, right⟩ := List.forall_mem_cons.mp right
      rw [sameKey_cons, Bool.and_eq_true, Cell.same_exact own other, decide_eq_true_eq] at same
      rw [same.1, ih left right same.2]

section

variable {α : Type} {ks : List (List Cell)} {key : List Cell}

theorem gather_cons (key k : List Cell) (a : α) (rows : List α) (rest : List (List Cell × List α)) :
    gather key a ((k, rows) :: rest) =
      if sameKey k key then (k, rows ++ [a]) :: rest else (k, rows) :: gather key a rest := rfl

theorem gather_new (told : ∀ k ∈ ks, sameKey k key = true → k = key) (fresh : key ∉ ks) (a : α)
    (rows : List Cell → List α) :
    gather key a (ks.map fun k => (k, rows k)) = ks.map (fun k => (k, rows k)) ++ [(key, [a])] := by
  induction ks with
  | nil => rfl
  | cons k rest ih =>
    obtain ⟨other, later⟩ := not_or.mp (mt List.mem_cons.mpr fresh)
    have apart : sameKey k key ≠ true := fun same => other (told k List.mem_cons_self same).symm
    have tail := ih (fun k member => told k (List.mem_cons_of_mem _ member)) later
    rw [List.map_cons, gather_cons, if_neg apart, tail, List.cons_append]

theorem gather_known (told : ∀ k ∈ ks, sameKey k key = true → k = key) (once : ks.Nodup)
    (known : key ∈ ks) (a : α) (rows : List Cell → List α) :
    gather key a (ks.map fun k => (k, rows k))
      = ks.map fun k => (k, if k = key then rows k ++ [a] else rows k) := by
  induction ks with
  | nil => cases known
  | cons k rest ih =>
    obtain ⟨fresh, once⟩ := List.nodup_cons.mp once
    rw [List.map_cons, List.map_cons, gather_cons]
    by_cases here : k = key
    · subst here
      have others : rest.map (fun k' => (k', rows k'))
          = rest.map fun k' => (k', if k' = k then rows k' ++ [a] else rows k') := by
        apply List.map_congr_left
        intro k' member
        rw [if_neg fun equal : k' = k => fresh (equal ▸ member)]
      rw [if_pos (sameKey_self k), if_pos rfl, others]
    · have later := (List.mem_cons.mp known).resolve_left (Ne.symm here)
      have tail := ih (fun k member => told k (List.mem_cons_of_mem _ member)) once later
      rw [if_neg fun same => here (told k List.mem_cons_self same), if_neg here, tail]

end

section

variable {α : Type} {key k : List Cell} {a b : α} {rows : List α}

theorem mem_gather {groups : List (List Cell × List α)} (group : (k, rows) ∈ gather key a groups)
    (member : b ∈ rows) : b = a ∨ ∃ g ∈ groups, b ∈ g.2 := by
  induction groups with
  | nil =>
    obtain ⟨-, rfl⟩ := Prod.mk.inj (List.mem_singleton.mp group)
    exact .inl (List.mem_singleton.mp member)
  | cons g rest ih =>
    obtain ⟨k', own⟩ := g
    rw [gather_cons] at group
    split at group
    · obtain here | later := List.mem_cons.mp group
      · obtain ⟨-, rfl⟩ := Prod.mk.inj here
        obtain known | new := List.mem_append.mp member
        · exact .inr ⟨_, List.mem_cons_self, known⟩
        · exact .inl (List.mem_singleton.mp new)
      · exact .inr ⟨_, List.mem_cons_of_mem _ later, member⟩
    · obtain here | later := List.mem_cons.mp group
      · obtain ⟨-, rfl⟩ := Prod.mk.inj here
        exact .inr ⟨_, List.mem_cons_self, member⟩
      · obtain same | ⟨g, among, inside⟩ := ih later
        · exact .inl same
        · exact .inr ⟨g, List.mem_cons_of_mem _ among, inside⟩

theorem mem_gatherAll {keyed : List (List Cell × α)} (group : (k, rows) ∈ gatherAll keyed)
    (member : b ∈ rows) : b ∈ keyed.map (·.2) := by
  induction keyed using List.reverseRecOn generalizing k rows with
  | nil => cases group
  | append_singleton keyed row ih =>
    rw [gatherAll, List.foldl_append] at group
    rw [List.map_append, List.mem_append]
    obtain new | ⟨g, among, inside⟩ := mem_gather group member
    · exact .inr (List.mem_singleton.mpr new)
    · exact .inl (ih among inside)

end

/-- Rows with keys in their groups: a group for each key, with all the rows of the key. -/
structure Gathered {α : Type} (keyed : List (List Cell × α)) (ks : List (List Cell))
    (groups : List (List Cell × List α)) : Prop where
  once : ks.Nodup
  keys : ∀ k, k ∈ ks ↔ k ∈ keyed.map (·.1)
  groups : groups = ks.map fun k => (k, (keyed.filter (·.1 = k)).map (·.2))

theorem gathered_step {α : Type} {keyed : List (List Cell × α)} {ks : List (List Cell)}
    {groups : List (List Cell × List α)} {row : List Cell × α} (gathered : Gathered keyed ks groups)
    (told : KeysTold (keyed ++ [row])) : ∃ ks, Gathered (keyed ++ [row]) ks
      (gather row.1 row.2 groups) := by
  obtain ⟨once, keys, rfl⟩ := gathered
  obtain ⟨key, a⟩ := row
  -- Keys of the list that the store takes for equal are the same cells.
  have apart : ∀ k ∈ ks, sameKey k key = true → k = key := by
    intro k member
    obtain ⟨row, among, rfl⟩ := List.mem_map.mp ((keys k).mp member)
    exact told row (List.mem_append_left _ among) (key, a)
      (List.mem_append_right _ List.mem_cons_self)
  have added (k : List Cell) : ((keyed ++ [(key, a)]).filter (·.1 = k)).map (·.2)
      = (keyed.filter (·.1 = k)).map (·.2) ++ if key = k then [a] else [] := by
    by_cases here : key = k <;> simp [List.filter_append, here]
  by_cases known : key ∈ ks
  · refine ⟨ks, once, ?_, ?_⟩
    · intro k
      rw [keys k, List.map_append, List.mem_append]
      refine ⟨Or.inl, fun either => either.elim id fun last => ?_⟩
      rw [List.mem_singleton.mp last]
      exact (keys key).mp known
    · rw [gather_known apart once known]
      apply List.map_congr_left
      intro k _
      rw [added]
      by_cases here : k = key
      · rw [if_pos here, if_pos here.symm]
      · rw [if_neg here, if_neg (Ne.symm here), List.append_nil]
  · refine ⟨ks ++ [key], ?_, ?_, ?_⟩
    · exact List.nodup_append'.mpr ⟨once, List.nodup_singleton key,
        List.disjoint_singleton.mpr known⟩
    · intro k
      rw [List.mem_append, keys k, List.map_append, List.mem_append]
      exact Iff.rfl
    · have none : (keyed.filter (·.1 = key)).map (·.2) = [] := by
        rw [List.map_eq_nil_iff, List.filter_eq_nil_iff]
        intro row member equal
        exact known ((keys key).mpr (List.mem_map.mpr ⟨row, member, of_decide_eq_true equal⟩))
      rw [gather_new apart known, List.map_append]
      congr 1
      · apply List.map_congr_left
        intro k member
        rw [added, if_neg fun equal : key = k => known (equal ▸ member), List.append_nil]
      · rw [List.map_singleton, added, none, if_pos rfl, List.nil_append]

theorem gathered_all {α : Type} (keyed : List (List Cell × α)) (told : KeysTold keyed) :
    ∃ ks, Gathered keyed ks (gatherAll keyed) := by
  induction keyed using List.reverseRecOn with
  | nil => exact ⟨[], List.nodup_nil, fun _ => Iff.rfl, rfl⟩
  | append_singleton rows row ih =>
    have earlier : KeysTold rows := fun r member other among =>
      told r (List.mem_append_left _ member) other (List.mem_append_left _ among)
    obtain ⟨ks, gathered⟩ := ih earlier
    unfold gatherAll
    rw [List.foldl_append]
    exact gathered_step gathered told

theorem sorted_unique {ks ls : List (List Cell)}
    (apart : ∀ k ∈ ks, ∀ l ∈ ks, sameKey k l = true → k = l)
    (sorted : ks.Pairwise fun k l => keyLe k l = true) (once : ks.Nodup)
    (sorted' : ls.Pairwise fun k l => keyLe k l = true) (once' : ls.Nodup)
    (members : ∀ k, k ∈ ks ↔ k ∈ ls) : ks = ls := by
  have perm : ks.Perm ls := (List.perm_ext_iff_of_nodup once once').mpr members
  apply perm.eq_of_pairwise _ sorted sorted'
  intro k l first second before behind
  exact apart k first l ((members l).mpr second) (keyLe_antisymm before behind)

theorem gathered_sorted {α : Type} (keyed : List (List Cell × α)) (told : KeysTold keyed) :
    ∃ ks, ks.Pairwise (fun k l => keyLe k l = true) ∧
      Gathered keyed ks ((gatherAll keyed).mergeSort keyFirst) := by
  obtain ⟨ks, once, keys, groups⟩ := gathered_all keyed told
  have sorted := List.mergeSort_perm ks keyLe
  refine ⟨ks.mergeSort keyLe, List.pairwise_mergeSort keyLe_trans keyLe_total ks,
    sorted.nodup_iff.mpr once, fun k => sorted.mem_iff.trans (keys k), ?_⟩
  have along : ∀ k ∈ ks, ∀ l ∈ ks, keyLe k l = keyFirst (k, (keyed.filter (·.1 = k)).map (·.2))
      (l, (keyed.filter (·.1 = l)).map (·.2)) := fun _ _ _ _ => rfl
  rw [groups, ← List.map_mergeSort along]

end Analytics
