import Analytics.Proofs.Store.Order
import Analytics.Proofs.Store.Reads

/-!
Repeated rows. A join can repeat the row of an event, once for each row that stands beside it. Counts
of distinct values do not see this, and counts of rows do not where ids tell the rows apart.
-/

namespace Analytics

theorem distinctCells_copies {seen : List Cell} {c : Cell} (known : seen.any (Cell.same c) = true)
    (n : Nat) (rest : List Cell) :
    distinctCells seen (List.replicate n c ++ rest) = distinctCells seen rest := by
  induction n with
  | zero => rfl
  | succ n ih =>
    rw [List.replicate_succ, List.cons_append, distinctCells, if_pos known]
    exact ih

theorem distinctCells_repeated {n : Nat} (some : n ≠ 0) (seen : List Cell) (c : Cell)
    (rest : List Cell) : distinctCells seen (List.replicate n c ++ rest)
      = distinctCells seen (c :: rest) := by
  obtain ⟨k, rfl⟩ := Nat.exists_eq_succ_of_ne_zero some
  rw [List.replicate_succ, List.cons_append, distinctCells, distinctCells]
  split
  · rename_i known
    exact distinctCells_copies known k rest
  · have own : (c :: seen).any (Cell.same c) = true := by
      rw [List.any_cons, Cell.same_self, Bool.true_or]
    rw [distinctCells_copies own]

theorem distinctCells_apart {seen cells : List Cell}
    (apart : cells.Pairwise fun c d => Cell.same c d = false)
    (fresh : ∀ c ∈ cells, seen.any (Cell.same c) = false) : distinctCells seen cells = cells := by
  induction apart generalizing seen with
  | nil => rfl
  | @cons c rest others _ ih =>
    obtain ⟨own, later⟩ := List.forall_mem_cons.mp fresh
    rw [distinctCells, own, if_neg Bool.false_ne_true, ih]
    intro d member
    rw [List.any_cons, Cell.same_comm, others d member, later d member, Bool.false_or]

def RowView.SameUnder (name : Ident) (v u : RowView Column) : Prop :=
  ∀ c : Column, c.relation = name → v.SameIn u c

/-- Whether the second rows are the first ones, each once or more in a row, as far as columns under a
name tell. -/
inductive Repeats (name : Ident) : List (RowView Column) → List (RowView Column) → Prop
  | nil : Repeats name [] []
  | cons {v : RowView Column} {vs group us : List (RowView Column)} (some : group ≠ [])
    (same : ∀ u ∈ group, v.SameUnder name u) (rest : Repeats name vs us) :
    Repeats name (v :: vs) (group ++ us)

namespace Repeats

variable {name : Ident} {vs us : List (RowView Column)} {column : Column}

/-- Rows that come out of items are repeats of the items that have some. -/
theorem flatMap {α : Type} {as : List α} {view : α → RowView Column}
    {rows : α → List (RowView Column)}
    (same : ∀ a ∈ as, ∀ u ∈ rows a, (view a).SameUnder name u) :
    Repeats name ((as.filter fun a => !(rows a).isEmpty).map view) (as.flatMap rows) := by
  induction as with
  | nil => exact .nil
  | cons a rest ih =>
    obtain ⟨own, later⟩ := List.forall_mem_cons.mp same
    rw [List.flatMap_cons, List.filter_cons]
    cases none : (rows a).isEmpty with
    | true =>
      rw [List.isEmpty_iff.mp none]
      exact ih later
    | false =>
      exact .cons (List.isEmpty_eq_false_iff.mp none) own (ih later)

theorem filter {f : RowView Column → Bool} (repeats : Repeats name vs us)
    (alike : ∀ v u, RowView.SameUnder name v u → f u = f v) :
    Repeats name (vs.filter f) (us.filter f) := by
  induction repeats with
  | nil => exact .nil
  | @cons v vs group us some same _ ih =>
    rw [List.filter_append, List.filter_cons]
    cases held : f v with
    | true =>
      have all : group.filter f = group :=
        List.filter_eq_self.mpr fun u member => (alike v u (same u member)).trans held
      rw [all]
      exact .cons some same ih
    | false =>
      have none : group.filter f = [] :=
        List.filter_eq_nil_iff.mpr fun u member => by rw [alike v u (same u member), held]; decide
      rw [none]
      exact ih

theorem nil_iff (repeats : Repeats name vs us) : us = [] ↔ vs = [] := by
  cases repeats with
  | nil => exact Iff.rfl
  | cons some =>
    exact iff_of_false (fun none => some (List.append_eq_nil_iff.mp none).1) (List.cons_ne_nil _ _)

theorem distinct (repeats : Repeats name vs us) (under : column.relation = name) (seen : List Cell) :
    distinctCells seen ((us.map fun u => u.cell column).filter fun x => !x.isNull)
      = distinctCells seen ((vs.map fun v => v.cell column).filter fun x => !x.isNull) := by
  induction repeats generalizing seen with
  | nil => rfl
  | @cons v vs group us some same _ ih =>
    have copies : group.map (fun u => u.cell column)
        = List.replicate group.length (v.cell column) := by
      refine List.eq_replicate_iff.mpr ⟨List.length_map _, fun c member => ?_⟩
      obtain ⟨u, among, rfl⟩ := List.mem_map.mp member
      exact (same u among column under).1
    rw [List.map_append, copies, List.filter_append, List.filter_replicate, List.map_cons,
      List.filter_cons]
    split
    · rw [distinctCells_repeated (mt List.length_eq_zero_iff.mp some), distinctCells, distinctCells,
        ih, ih]
    · exact ih seen

variable {c : Count Column}

theorem includes_same (event : ∀ named ∈ c.event, named.1.relation = name) {v u : RowView Column}
    (same : v.SameUnder name u) : c.includes u = c.includes v := by
  have under : v.SameOn (fun c => c.relation = name) u := same
  exact (Count.includes_read under event).symm

theorem eval_distinct (repeats : Repeats name vs us) (counted : c.distinct = some column)
    (under : column.relation = name) (event : ∀ named ∈ c.event, named.1.relation = name) :
    c.eval us = c.eval vs := by
  have left := repeats.filter fun _ _ => includes_same event
  unfold Count.eval
  rw [counted]
  exact congrArg List.length (left.distinct under [])

theorem eval_told {c' : Count Column} (repeats : Repeats name vs us)
    (counted : c.distinct = some column) (under : column.relation = name)
    (event : ∀ named ∈ c.event, named.1.relation = name) (rows : c'.distinct = none)
    (same : c'.event = c.event) (some : ∀ v ∈ vs, (v.cell column).isNull = false)
    (told : (vs.map fun v => v.cell column).Pairwise fun c d => Cell.same c d = false) :
    c.eval us = c'.eval vs := by
  have includes : c'.includes = c.includes := by
    unfold Count.includes
    rw [same]
  have ids : (((vs.filter c.includes).map fun v => v.cell column).filter fun x => !x.isNull)
      = (vs.filter c.includes).map fun v => v.cell column := by
    refine List.filter_eq_self.mpr fun x member => ?_
    obtain ⟨v, among, rfl⟩ := List.mem_map.mp member
    rw [some v (List.mem_filter.mp among).1]
    rfl
  have apart := told.sublist ((List.filter_sublist (p := c.includes) (l := vs)).map fun v =>
    v.cell column)
  rw [repeats.eval_distinct counted under event]
  unfold Count.eval
  rw [counted, rows, includes]
  dsimp only
  rw [ids, distinctCells_apart apart fun _ _ => rfl, List.length_map]

end Repeats

end Analytics
