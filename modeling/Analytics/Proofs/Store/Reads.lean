import Analytics.Proofs.Store.Views

/-!
What predicates read. A predicate depends on the columns that it names and nothing else; so one on
other columns of the same cells means the same, and a condition does not see rows beside it that it
does not name.
-/

namespace Analytics

section

variable {κ κ' : Type}

def RowView.along (v : RowView κ') (f : κ → κ') : RowView κ := ⟨v.cell ∘ f, v.affinity ∘ f⟩

def RowView.SameIn (v u : RowView κ) (c : κ) : Prop :=
  u.cell c = v.cell c ∧ u.affinity c = v.affinity c

namespace Scalar

def map (f : κ → κ') : Scalar κ → Scalar κ'
  | column c => .column (f c)
  | bound value => .bound value
  | number e => .number (e.map f)
  | timestamp e => .timestamp (e.map f)
  | date e => .date (e.map f)

theorem eval_map (f : κ → κ') (v : RowView κ') (e : Scalar κ) :
    (e.map f).eval v = e.eval (v.along f) := by
  induction e with
  | column c => rfl
  | bound value => rfl
  | number e ih => exact congrArg Cell.toReal ih
  | timestamp e ih => exact congrArg Clock.dateTime ih
  | date e ih => exact congrArg Clock.date ih

theorem affinity_map (f : κ → κ') (v : RowView κ') (e : Scalar κ) :
    (e.map f).affinity v = e.affinity (v.along f) := by cases e <;> rfl

theorem columns_map (f : κ → κ') (e : Scalar κ) : (e.map f).columns = e.columns.map f := by
  induction e with
  | column c => rfl
  | bound value => rfl
  | number e ih => exact ih
  | timestamp e ih => exact ih
  | date e ih => exact ih

theorem eval_congr {v u : RowView κ} (e : Scalar κ) (same : ∀ c ∈ e.columns, v.SameIn u c) :
    e.eval u = e.eval v ∧ e.affinity u = e.affinity v := by
  induction e with
  | column c => exact same c List.mem_cons_self
  | bound value => exact ⟨rfl, rfl⟩
  | number e ih => exact ⟨congrArg Cell.toReal (ih same).1, rfl⟩
  | timestamp e ih => exact ⟨congrArg Clock.dateTime (ih same).1, rfl⟩
  | date e ih => exact ⟨congrArg Clock.date (ih same).1, rfl⟩

end Scalar

namespace Predicate

def map (f : κ → κ') : Predicate κ → Predicate κ'
  | always => .always
  | never => .never
  | isNull c => .isNull (f c)
  | isNotNull c => .isNotNull (f c)
  | compare comparison left right => .compare comparison (left.map f) (right.map f)
  | both first second => .both (first.map f) (second.map f)
  | within item items => .within (item.map f) (items.map (Scalar.map f))
  | notWithin item items => .notWithin (item.map f) (items.map (Scalar.map f))
  | like c pattern => .like (f c) pattern
  | notLike c pattern => .notLike (f c) pattern

theorem evalWithin_map (f : κ → κ') (v : RowView κ') (item : Scalar κ) (items : List (Scalar κ)) :
    evalWithin v (item.map f) (items.map (Scalar.map f)) = evalWithin (v.along f) item items := by
  unfold evalWithin
  rw [List.map_map, Scalar.affinity_map, Scalar.eval_map]
  congr 1
  refine List.map_congr_left fun other _ => ?_
  exact congrArg (compareCells _ _ _) (Scalar.eval_map f v other)

theorem eval_map (f : κ → κ') (v : RowView κ') (p : Predicate κ) :
    (p.map f).eval v = p.eval (v.along f) := by
  induction p with
  | compare comparison left right =>
    simp only [map, eval, Scalar.eval_map, Scalar.affinity_map]
  | both first second ih ih' =>
    simp only [map, eval, ih, ih']
  | within item items => exact evalWithin_map f v item items
  | notWithin item items => exact congrArg Truth.not (evalWithin_map f v item items)
  | _ => rfl

theorem columns_map (f : κ → κ') (p : Predicate κ) : (p.map f).columns = p.columns.map f := by
  have listed (item : Scalar κ) (items : List (Scalar κ)) :
      (item.map f).columns ++ (items.map (Scalar.map f)).flatMap Scalar.columns
        = (item.columns ++ items.flatMap Scalar.columns).map f := by
    rw [Scalar.columns_map, List.map_append, List.flatMap_map, List.map_flatMap]
    simp only [Scalar.columns_map]
  induction p with
  | compare comparison left right =>
    simp only [map, columns, Scalar.columns_map, List.map_append]
  | both first second ih ih' =>
    simp only [map, columns, ih, ih', List.map_append]
  | within item items => exact listed item items
  | notWithin item items => exact listed item items
  | _ => rfl

theorem eval_congr {v u : RowView κ} (p : Predicate κ) (same : ∀ c ∈ p.columns, v.SameIn u c) :
    p.eval u = p.eval v := by
  have within (item : Scalar κ) (items : List (Scalar κ))
      (same : ∀ c ∈ item.columns ++ items.flatMap Scalar.columns, v.SameIn u c) :
      evalWithin u item items = evalWithin v item items := by
    obtain ⟨cell, affinity⟩ := item.eval_congr fun c member => same c (List.mem_append_left _ member)
    unfold evalWithin
    rw [cell, affinity]
    congr 1
    refine List.map_congr_left fun other among => ?_
    rw [(other.eval_congr fun c member => same c (List.mem_append_right _
      (List.mem_flatMap.mpr ⟨other, among, member⟩))).1]
  induction p with
  | always => rfl
  | never => rfl
  | isNull c => simp only [eval, (same c List.mem_cons_self).1]
  | isNotNull c => simp only [eval, (same c List.mem_cons_self).1]
  | compare comparison left right =>
    obtain ⟨cell, affinity⟩ := left.eval_congr fun c member =>
      same c (List.mem_append_left _ member)
    obtain ⟨cell', affinity'⟩ := right.eval_congr fun c member =>
      same c (List.mem_append_right _ member)
    simp only [eval, cell, affinity, cell', affinity']
  | both first second ih ih' =>
    simp only [eval, ih fun c member => same c (List.mem_append_left _ member),
      ih' fun c member => same c (List.mem_append_right _ member)]
  | within item items => exact within item items same
  | notWithin item items => exact congrArg Truth.not (within item items same)
  | like c pattern => simp only [eval, (same c List.mem_cons_self).1]
  | notLike c pattern => simp only [eval, (same c List.mem_cons_self).1]

end Predicate

end

namespace RowScope

/-- Rows side by side hold, under a name, what the first row of the name holds. -/
theorem view_congr {s t : RowScope} {c : Column} (same : t.find? c.relation = s.find? c.relation) :
    s.view.SameIn t.view c := by
  constructor <;> simp only [view, same]

theorem find_own (b : BoundRow) (s : RowScope) : find? (b :: s) b.name = some b :=
  List.find?_cons_of_pos (decide_eq_true rfl)

theorem find_beside {b : BoundRow} {s : RowScope} {name : Ident} (other : name ≠ b.name) :
    find? (b :: s) name = s.find? name :=
  List.find?_cons_of_neg (mt of_decide_eq_true (Ne.symm other))

end RowScope

namespace Relation

variable {db : Database} {r : Relation}

theorem extend_found {table : Table} (found : db.table? r.table.text = some table) (s : RowScope) :
    r.extend db s = table.rows.map fun row => ⟨r.name, table, some row⟩ :: s := by
  unfold extend
  rw [found]

theorem extend_missing (missing : db.table? r.table.text = none) (s : RowScope) :
    r.extend db s = [] := by
  unfold extend
  rw [missing]

end Relation

namespace Condition

def Avoids (name : Ident) : Condition → Prop
  | plain p => ∀ c ∈ p.columns, c.relation ≠ name
  | linked r link p => r.name ≠ name ∧ ∀ c ∈ link.columns ++ p.columns, c.relation ≠ name

/-- A condition holds beside a row that it does not name exactly if it holds without it. -/
theorem holds_beside {b : BoundRow} {s : RowScope} (db : Database) (c : Condition)
    (avoids : c.Avoids b.name) : c.holds db (b :: s) = c.holds db s := by
  cases c with
  | plain p =>
    refine congrArg Truth.holds (p.eval_congr fun c member => RowScope.view_congr ?_)
    exact RowScope.find_beside (avoids c member)
  | linked r link p =>
    simp only [holds]
    cases found : db.table? r.table.text with
    | none => rw [Relation.extend_missing found, Relation.extend_missing found]
    | some table =>
      rw [Relation.extend_found found, Relation.extend_found found, List.any_map, List.any_map]
      congr 1
      funext row
      have same : ∀ c ∈ link.columns ++ p.columns,
          (RowScope.view (⟨r.name, table, some row⟩ :: s)).SameIn
            (RowScope.view (⟨r.name, table, some row⟩ :: b :: s)) c := by
        intro c member
        apply RowScope.view_congr
        by_cases own : c.relation = r.name
        · rw [own, RowScope.find_own, RowScope.find_own]
        · have behind (t : RowScope) :
              RowScope.find? (⟨r.name, table, some row⟩ :: t) c.relation = t.find? c.relation :=
            RowScope.find_beside own
          rw [behind, behind, RowScope.find_beside (avoids.2 c member)]
      simp only [Function.comp_apply,
        link.eval_congr fun c member => same c (List.mem_append_left _ member),
        p.eval_congr fun c member => same c (List.mem_append_right _ member)]

end Condition

/-- Whether two rows hold the same in all columns that are read. -/
def RowView.SameOn (reads : Column → Prop) (v u : RowView Column) : Prop :=
  ∀ c, reads c → v.SameIn u c

section

variable {reads : Column → Prop} {v u : RowView Column}

theorem Predicate.eval_same {p : Predicate Column} (same : v.SameOn reads u)
    (read : ∀ c ∈ p.columns, reads c) : p.eval v = p.eval u :=
  (p.eval_congr fun c member => same c (read c member)).symm

theorem GroupExpr.eval_same {e : GroupExpr Column} (same : v.SameOn reads u)
    (read : ∀ c ∈ e.columns, reads c) : e.eval v = e.eval u := by
  cases e with
  | value c => exact (same c (read c List.mem_cons_self)).1.symm
  | flag p =>
    unfold eval
    dsimp only
    rw [Predicate.eval_same same read]
  | zero => rfl

theorem Count.includes_read {c : Count Column} (same : v.SameOn reads u)
    (event : ∀ named ∈ c.event, reads named.1) : c.includes v = c.includes u := by
  unfold Count.includes
  cases named : c.event with
  | none => rfl
  | some column =>
    have own := same column.1 (event column named)
    simp only [Predicate.eval, Scalar.eval, Scalar.affinity, own.1, own.2]

end

end Analytics
