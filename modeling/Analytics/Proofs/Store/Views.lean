import Analytics.Store.Answer
import Mathlib.Data.List.Basic

/-!
Statements over one table. Where a statement has no joins and no linked conditions, its answer is one
of the views of the table's rows: what each row holds, by column.
-/

namespace Analytics

theorem all_same {α : Type} {as : List α} {f g : α → Bool} (same : ∀ a ∈ as, f a = g a) :
    as.all f = as.all g := by
  induction as with
  | nil => rfl
  | cons a rest ih =>
    have tail := ih fun b member => same b (List.mem_cons_of_mem a member)
    rw [List.all_cons, List.all_cons, same a List.mem_cons_self, tail]

theorem Affinity.common_none (a : Affinity) : a.common .none = a := by cases a <;> rfl

namespace Table

/-- What a row of the table holds, under the one name of a statement. -/
def view (t : Table) (name : Ident) (row : TableRow) : RowView Column where
  cell c := if name = c.relation then TableRow.cell row c.name.text else .null
  affinity c := if name = c.relation then (t.affinity? c.name.text).getD .none else .none

theorem affinity_congr {t t' : Table} (columns : t.columns = t'.columns) (name : String) :
    t.affinity? name = t'.affinity? name := by
  unfold affinity?
  rw [columns]

theorem view_congr {t t' : Table} (columns : t.columns = t'.columns) (name : Ident) :
    t.view name = t'.view name := by
  funext row
  simp only [view, affinity_congr columns]

end Table

namespace Database

variable {db db' : Database} {rs : List Relation} {cs : List Column} {c : Column}

theorem knows_iff : db.knows rs cs = true ↔
    (∀ r ∈ rs, (db.table? r.table.text).isSome = true) ∧ ∀ c ∈ cs, db.hasColumn rs c = true := by
  unfold knows
  rw [Bool.and_eq_true, List.all_eq_true, List.all_eq_true]

theorem hasColumn_iff : db.hasColumn rs c = true ↔ ∃ r ∈ rs, r.name = c.relation ∧
    ∃ table, db.table? r.table.text = some table ∧ table.hasColumn c.name.text = true := by
  unfold hasColumn
  rw [List.any_eq_true]
  refine exists_congr fun r => and_congr_right fun _ => ?_
  rw [Bool.and_eq_true, decide_eq_true_eq]
  refine and_congr_right fun _ => ?_
  cases db.table? r.table.text <;> simp

theorem knows_congr (columns : ∀ r ∈ rs,
      (db'.table? r.table.text).map (·.columns) = (db.table? r.table.text).map (·.columns)) :
    db.knows rs cs = db'.knows rs cs := by
  have tables : (rs.all fun r => (db.table? r.table.text).isSome)
      = rs.all fun r => (db'.table? r.table.text).isSome := by
    apply all_same
    intro r member
    have same := congrArg Option.isSome (columns r member)
    rw [Option.isSome_map, Option.isSome_map] at same
    exact same.symm
  have has (c : Column) : db.hasColumn rs c = db'.hasColumn rs c := by
    rw [Bool.eq_iff_iff, hasColumn_iff, hasColumn_iff]
    refine exists_congr fun r => and_congr_right fun member => and_congr_right fun _ => ?_
    have same := columns r member
    cases found : db.table? r.table.text with
    | none =>
      rw [found, Option.map_none, Option.map_eq_none_iff] at same
      rw [same]
    | some table =>
      rw [found, Option.map_some, Option.map_eq_some_iff] at same
      obtain ⟨table', found', same⟩ := same
      simp only [found', Option.some.injEq, exists_eq_left', Table.hasColumn,
        Table.affinity_congr same]
  unfold knows
  rw [tables, funext has]

theorem series_congr {s : SeriesStatement}
    (known : ∀ b ∈ s.branches, db.knows b.relations b.columns = db'.knows b.relations b.columns)
    (answers : ∀ b ∈ s.branches, b.answer db = b.answer db') : db.series? s = db'.series? s := by
  unfold series?
  rw [all_same known, List.flatMap_congr answers]

end Database

namespace RowScope

theorem view_single (t : Table) (name : Ident) (row : TableRow) :
    view [⟨name, t, some row⟩] = t.view name row := by
  unfold view Table.view find?
  congr 1 <;> funext c <;> by_cases here : name = c.relation <;> simp [here]

end RowScope

namespace Condition

/-- Whether a condition looks at the row alone. -/
def isPlain : Condition → Bool
  | plain _ => true
  | linked _ _ _ => false

def holdsOn (v : RowView Column) : Condition → Bool
  | plain p => (p.eval v).holds
  | linked _ _ _ => false

theorem holds_plain {c : Condition} (db : Database) (s : RowScope) (plain : c.isPlain = true) :
    c.holds db s = c.holdsOn s.view := by
  cases c with
  | plain p => rfl
  | linked relation link p => cases plain

theorem linked_none {cs : List Condition} (plain : ∀ c ∈ cs, c.isPlain = true) :
    (cs.filterMap fun c => match c with
      | .plain _ => none
      | .linked relation _ _ => some relation) = [] := by
  apply List.filterMap_eq_nil_iff.mpr
  intro c member
  have held := plain c member
  cases c with
  | plain p => rfl
  | linked relation link p => cases held

def allHold (cs : List Condition) (v : RowView Column) : Bool := cs.all (·.holdsOn v)

theorem filter_extend {db : Database} {r : Relation} {t : Table} {cs : List Condition}
    (found : db.table? r.table.text = some t) (plain : ∀ c ∈ cs, c.isPlain = true) :
    ((r.extend db []).filter fun s => cs.all fun c => c.holds db s).map RowScope.view
      = (t.rows.map (t.view r.name)).filter (allHold cs) := by
  have held (s : RowScope) : (cs.all fun c => c.holds db s) = allHold cs s.view :=
    all_same fun c member => holds_plain db s (plain c member)
  have extended : r.extend db [] = t.rows.map fun row => [⟨r.name, t, some row⟩] := by
    unfold Relation.extend
    rw [found]
  have views : (t.rows.map fun row => ([⟨r.name, t, some row⟩] : RowScope)).map RowScope.view
      = t.rows.map (t.view r.name) := by
    rw [List.map_map]
    exact List.map_congr_left fun row _ => RowScope.view_single t r.name row
  calc ((r.extend db []).filter fun s => cs.all fun c => c.holds db s).map RowScope.view
      = ((r.extend db []).filter (allHold cs ∘ RowScope.view)).map RowScope.view := by
        rw [List.filter_congr fun s _ => held s]
        rfl
    _ = ((r.extend db []).map RowScope.view).filter (allHold cs) := List.filter_map.symm
    _ = (t.rows.map (t.view r.name)).filter (allHold cs) := by rw [extended, views]

end Condition

namespace Branch

/-- The rows that a branch counts, as views. -/
def views (db : Database) (b : Branch) : List (RowView Column) := (b.scopes db).map RowScope.view

def answerOf (b : Branch) (views : List (RowView Column)) : List (Cell × ResultRow) :=
  ((gatherAll (views.map fun v => (b.groupKey v, v))).mergeSort keyFirst).filterMap
    fun (_, views) => views.head?.map fun first => (b.label.eval first, b.resultRow first views)

theorem answer_views (db : Database) (b : Branch) : b.answer db = b.answerOf (b.views db) := by
  unfold answer answerOf views
  rw [List.map_map]
  rfl

theorem groups_of_key {b : Branch} {v u : RowView Column} (key : b.groupKey v = b.groupKey u) :
    ∀ g ∈ b.groups, g.expr.eval v = g.expr.eval u := by
  intro g member
  have values := (List.cons.inj key).2
  cases grouped : g.isGrouped with
  | true => exact List.map_inj_left.mp values g (List.mem_filter.mpr ⟨member, grouped⟩)
  | false =>
    obtain ⟨expr, title⟩ := g
    cases expr with
    | zero => rfl
    | value column => cases grouped
    | flag predicate => cases grouped

structure IsSingle (b : Branch) : Prop where
  joins : b.joins = []
  plain : ∀ c ∈ b.conditions, c.isPlain = true

theorem views_single {db : Database} {b : Branch} {t : Table} (single : b.IsSingle)
    (found : db.table? b.relation.table.text = some t) :
    b.views db = (t.rows.map (t.view b.relation.name)).filter (Condition.allHold b.conditions) := by
  unfold views scopes
  rw [single.joins]
  exact Condition.filter_extend found single.plain

theorem relations_single {b : Branch} (single : b.IsSingle) : b.relations = [b.relation] := by
  have linked := Condition.linked_none single.plain
  unfold relations
  rw [single.joins, List.map_nil, List.nil_append]
  exact congrArg (b.relation :: ·) linked

end Branch

end Analytics
