import Analytics.Proofs.Store.Repeats
import Mathlib.Data.List.Basic

/-!
Joined rows. A branch can read a relation in two ways: it joins the relation's rows and keeps those that
satisfy a predicate, or it asks for a linked row that does. Where no row of nulls satisfies the
predicate, or every event has a linked row, the first way repeats the events of the second one.
-/

namespace Analytics

namespace Relation

variable {r r' : Relation}

def rename (r r' : Relation) (c : Column) : Column :=
  if c.relation = r.name then r'.column c.name else c

theorem rename_column (r r' : Relation) (name : Ident) :
    r.rename r' (r.column name) = r'.column name := if_pos rfl

theorem rename_other {c : Column} (other : c.relation ≠ r.name) : r.rename r' c = c :=
  if_neg other

theorem eval_rename {p : Predicate Column} (apart : ∀ c ∈ p.columns, c.relation ≠ r'.name)
    (table : Table) (row : Option TableRow) (s : RowScope) :
    (p.map (r.rename r')).eval (RowScope.view (⟨r'.name, table, row⟩ :: s))
      = p.eval (RowScope.view (⟨r.name, table, row⟩ :: s)) := by
  rw [Predicate.eval_map]
  refine p.eval_congr fun c member => ?_
  by_cases own : c.relation = r.name
  · have renamed : r.rename r' c = ⟨r'.name, c.name⟩ := if_pos own
    have here := RowScope.find_own ⟨r'.name, table, row⟩ s
    have there := RowScope.find_own ⟨r.name, table, row⟩ s
    dsimp only at here there
    constructor
    · simp only [RowView.along, Function.comp_apply, RowScope.view, renamed, own, here, there]
      rfl
    · simp only [RowView.along, Function.comp_apply, RowScope.view, renamed, own, here, there]
  · have here : RowScope.find? (⟨r'.name, table, row⟩ :: s) c.relation = s.find? c.relation :=
      RowScope.find_beside (apart c member)
    have there : RowScope.find? (⟨r.name, table, row⟩ :: s) c.relation = s.find? c.relation :=
      RowScope.find_beside own
    constructor <;>
      simp only [RowView.along, Function.comp_apply, RowScope.view, rename_other own, here, there]

end Relation

theorem Condition.linked_rename {r r' : Relation} {link p : Predicate Column}
    (table : r'.table = r.table) (apart : ∀ c ∈ link.columns ++ p.columns, c.relation ≠ r'.name)
    (db : Database) (s : RowScope) :
    (linked r' (link.map (r.rename r')) (p.map (r.rename r'))).holds db s
      = (linked r link p).holds db s := by
  simp only [holds]
  cases found : db.table? r.table.text with
  | none =>
    rw [Relation.extend_missing found, Relation.extend_missing (table ▸ found), List.any_nil,
      List.any_nil]
  | some t =>
    rw [Relation.extend_found found, Relation.extend_found (table ▸ found), List.any_map,
      List.any_map]
    congr 1
    funext row
    simp only [Function.comp_apply,
      Relation.eval_rename fun c member => apart c (List.mem_append_left _ member),
      Relation.eval_rename fun c member => apart c (List.mem_append_right _ member)]

namespace Join

variable {db : Database} {j : Join} {table : Table} {s t : RowScope}

theorem apply_beside (found : db.table? j.relation.table.text = some table)
    (member : t ∈ j.apply db s) : ∃ row, t = ⟨j.relation.name, table, row⟩ :: s := by
  unfold apply at member
  split at member
  · unfold Relation.extendNull at member
    rw [found] at member
    exact ⟨none, List.mem_singleton.mp member⟩
  · rename_i linked _
    have inside := (List.mem_filter.mp member).1
    rw [Relation.extend_found found] at inside
    obtain ⟨row, _, rfl⟩ := List.mem_map.mp inside
    exact ⟨some row, rfl⟩

/-- The linked rows that satisfy a predicate, each beside the row they are linked to. -/
def linked (db : Database) (j : Join) (p : Predicate Column) (s : RowScope) : List RowScope :=
  (j.relation.extend db s).filter fun t => (j.link.eval t.view).holds && (p.eval t.view).holds

theorem linked_some (db : Database) (j : Join) (p : Predicate Column) (s : RowScope) :
    (!(j.linked db p s).isEmpty) = (Condition.linked j.relation j.link p).holds db s := by
  simp only [linked, Condition.holds]
  rw [Bool.eq_iff_iff, Bool.not_eq_true', List.isEmpty_eq_false_iff, List.any_eq_true]
  constructor
  · intro some
    obtain ⟨t, member⟩ := List.exists_mem_of_ne_nil _ some
    exact ⟨t, List.mem_filter.mp member⟩
  · rintro ⟨t, member⟩
    exact List.ne_nil_of_mem (List.mem_filter.mpr member)

theorem linked_beside (found : db.table? j.relation.table.text = some table) {p : Predicate Column}
    (member : t ∈ j.linked db p s) : ∃ row, t = ⟨j.relation.name, table, row⟩ :: s := by
  have inside := (List.mem_filter.mp member).1
  rw [Relation.extend_found found] at inside
  obtain ⟨row, _, rfl⟩ := List.mem_map.mp inside
  exact ⟨some row, rfl⟩

/-- The joined rows that satisfy a predicate are linked rows, where a row of nulls satisfies it only if
there are linked rows. -/
theorem apply_filter (found : db.table? j.relation.table.text = some table) (p : Predicate Column)
    (null : (p.eval (RowScope.view (⟨j.relation.name, table, none⟩ :: s))).holds = true →
      (Condition.linked j.relation j.link .always).holds db s = true) :
    (j.apply db s).filter (fun t => (p.eval t.view).holds) = j.linked db p s := by
  have both : j.linked db p s
      = ((j.relation.extend db s).filter fun t => (j.link.eval t.view).holds).filter
        fun t => (p.eval t.view).holds := by
    rw [linked, List.filter_filter]
    exact List.filter_congr fun t _ => Bool.and_comm _ _
  rw [both]
  unfold apply
  split
  · -- No row is linked, so the one of nulls is joined, and does not satisfy the predicate.
    rename_i none
    rw [none]
    refine List.filter_eq_nil_iff.mpr fun t member satisfied => ?_
    unfold Relation.extendNull at member
    rw [found] at member
    rw [List.mem_singleton.mp member] at satisfied
    obtain ⟨linked, among, held⟩ := List.any_eq_true.mp (null satisfied)
    exact List.filter_eq_nil_iff.mp none linked among (Bool.and_eq_true_iff.mp held).1
  · rfl

end Join

theorem filter_flatMap_same {α β : Type} {f : α → List β} {keep : α → Bool} {test : β → Bool}
    {as : List α} (same : ∀ a ∈ as, ∀ b ∈ f a, test b = keep a) :
    (as.flatMap f).filter test = (as.filter keep).flatMap f := by
  induction as with
  | nil => rfl
  | cons a rest ih =>
    obtain ⟨own, later⟩ := List.forall_mem_cons.mp same
    rw [List.flatMap_cons, List.filter_append, ih later, List.filter_cons]
    cases kept : keep a with
    | true =>
      rw [List.filter_eq_self.mpr fun b member => (own b member).trans kept]
      rfl
    | false =>
      rw [List.filter_eq_nil_iff.mpr fun b member => by rw [own b member, kept]; decide]
      rfl

namespace Branch

/-- The rows of a branch's own relation that satisfy its conditions. -/
def events (db : Database) (b : Branch) : List RowScope :=
  (b.relation.extend db []).filter fun s => b.conditions.all fun c => c.holds db s

/-- Whether one branch joins a relation and another one asks for a linked row of the same table instead
that satisfies a predicate. -/
structure Exchanges (b b' : Branch) (j : Join) (r' : Relation) (p : Predicate Column) : Prop where
  relation : b'.relation = b.relation
  joins : b.joins = [j]
  joins' : b'.joins = []
  conditions : b'.conditions = b.conditions
    ++ [.linked r' (j.link.map (j.relation.rename r')) (p.map (j.relation.rename r'))]
  table : r'.table = j.relation.table
  other : b.relation.name ≠ j.relation.name
  avoids : ∀ c ∈ b.conditions, c.Avoids j.relation.name
  apart : ∀ c ∈ j.link.columns ++ p.columns, c.relation ≠ r'.name

variable {db : Database} {b b' : Branch} {j : Join} {r' : Relation} {p : Predicate Column}
  {table : Table}

theorem scopes_events (none : b.joins = []) : b.scopes db = b.events db := by
  unfold scopes events
  rw [none]
  rfl

theorem scopes_joined (exchanges : b.Exchanges b' j r' p)
    (found : db.table? j.relation.table.text = some table) :
    b.scopes db = (b.events db).flatMap (j.apply db) := by
  unfold scopes events
  rw [exchanges.joins, List.foldl_cons, List.foldl_nil]
  refine filter_flatMap_same fun s _ t member => ?_
  obtain ⟨row, rfl⟩ := Join.apply_beside found member
  exact all_same fun c inside => c.holds_beside db (exchanges.avoids c inside)

theorem events_exchanged (exchanges : b.Exchanges b' j r' p) :
    b'.events db = (b.events db).filter fun s => (Condition.linked j.relation j.link p).holds db s := by
  unfold events
  rw [exchanges.conditions, exchanges.relation, List.filter_filter]
  refine List.filter_congr fun s _ => ?_
  rw [List.all_append, List.all_cons, List.all_nil, Bool.and_true,
    Condition.linked_rename exchanges.table exchanges.apart, Bool.and_comm]

theorem views_exchanged (test : RowView Column → Bool) (exchanges : b.Exchanges b' j r' p)
    (found : db.table? j.relation.table.text = some table)
    (null : ∀ s ∈ b.events db,
      (p.eval (RowScope.view (⟨j.relation.name, table, none⟩ :: s))).holds = true →
        (Condition.linked j.relation j.link .always).holds db s = true)
    (under : ∀ v u, RowView.SameUnder b.relation.name v u → test u = test v) :
    Repeats b.relation.name ((b'.views db).filter test)
      ((b.views db).filter fun v => test v && (p.eval v).holds) := by
  have beside (s : RowScope) (row : Option TableRow) : RowView.SameUnder b.relation.name s.view
      (RowScope.view (⟨j.relation.name, table, row⟩ :: s)) := by
    intro c own
    refine RowScope.view_congr (RowScope.find_beside ?_)
    rw [own]
    exact exchanges.other
  -- Both sides are brought to the events that pass the test, with the linked rows of each.
  have joined : (b.views db).filter (fun v => test v && (p.eval v).holds)
      = ((b.events db).filter fun s => test s.view).flatMap fun s =>
        (j.linked db p s).map RowScope.view := by
    have tested : ((b.events db).flatMap (j.apply db)).filter (fun t => test t.view)
        = ((b.events db).filter fun s => test s.view).flatMap (j.apply db) := by
      refine filter_flatMap_same fun s _ t member => ?_
      obtain ⟨row, rfl⟩ := Join.apply_beside found member
      exact under _ _ (beside s row)
    calc (b.views db).filter (fun v => test v && (p.eval v).holds)
        = ((((b.events db).flatMap (j.apply db)).filter fun t => test t.view).filter
            fun t => (p.eval t.view).holds).map RowScope.view := by
          rw [views, scopes_joined exchanges found, List.filter_map, List.filter_filter]
          congr 1
          exact List.filter_congr fun t _ => Bool.and_comm _ _
      _ = _ := by
          rw [tested, List.filter_flatMap, List.map_flatMap]
          refine List.flatMap_congr fun s member => ?_
          rw [Join.apply_filter found p (null s (List.mem_filter.mp member).1)]
  have asked : (b'.views db).filter test
      = (((b.events db).filter fun s => test s.view).filter fun s =>
        (Condition.linked j.relation j.link p).holds db s).map RowScope.view := by
    rw [views, scopes_events exchanges.joins', events_exchanged exchanges, List.filter_map,
      List.filter_filter, List.filter_filter]
    congr 1
    exact List.filter_congr fun s _ => Bool.and_comm _ _
  have some (s : RowScope) : (Condition.linked j.relation j.link p).holds db s
      = !((j.linked db p s).map RowScope.view).isEmpty := by
    rw [List.isEmpty_map, Join.linked_some]
  simp only [joined, asked, some]
  refine Repeats.flatMap fun s _ u member => ?_
  obtain ⟨t, linked, rfl⟩ := List.mem_map.mp member
  obtain ⟨row, rfl⟩ := Join.linked_beside found linked
  exact beside s row

end Branch

namespace Branch

variable {db : Database} {b b' : Branch} {j : Join} {r' : Relation} {p : Predicate Column}

theorem mem_relations {r : Relation} : r ∈ b.relations ↔ r = b.relation ∨
    (∃ j ∈ b.joins, j.relation = r) ∨ ∃ link p, .linked r link p ∈ b.conditions := by
  unfold relations
  rw [List.mem_cons, List.mem_append, List.mem_map, List.mem_filterMap]
  refine or_congr_right (or_congr_right ?_)
  constructor
  · rintro ⟨c, member, here⟩
    cases c with
    | plain p => cases here
    | linked relation link p =>
      cases here
      exact ⟨link, p, member⟩
  · rintro ⟨link, p, member⟩
    exact ⟨_, member, rfl⟩

theorem mem_columns {c : Column} : c ∈ b.columns ↔
    c ∈ b.label.column :: b.metrics.flatMap (·.count.columns) ∨
      (∃ g ∈ b.groups, c ∈ g.expr.columns) ∨ (∃ j ∈ b.joins, c ∈ j.link.columns) ∨
        ∃ d ∈ b.conditions, c ∈ d.columns := by
  unfold columns
  simp only [List.mem_cons, List.mem_append, List.mem_flatMap, or_assoc]

namespace Exchanges

variable {c : Column} {r : Relation}

theorem asked (exchanges : b.Exchanges b' j r' p) :
    .linked r' (j.link.map (j.relation.rename r')) (p.map (j.relation.rename r')) ∈ b'.conditions := by
  rw [exchanges.conditions]
  exact List.mem_append_right _ List.mem_cons_self

theorem joined (exchanges : b.Exchanges b' j r' p) : j ∈ b.joins := by
  rw [exchanges.joins]
  exact List.mem_cons_self

theorem joined_relation (exchanges : b.Exchanges b' j r' p) (member : r ∈ b.relations)
    (own : r.name = j.relation.name) : r = j.relation := by
  rcases mem_relations.mp member with rfl | ⟨join, inside, rfl⟩ | ⟨link, q, inside⟩
  · exact absurd own exchanges.other
  · rw [exchanges.joins, List.mem_singleton] at inside
    rw [inside]
  · exact absurd own (exchanges.avoids _ inside).1

theorem kept_relation (exchanges : b.Exchanges b' j r' p) (member : r ∈ b.relations)
    (other : r.name ≠ j.relation.name) : r ∈ b'.relations := by
  rcases mem_relations.mp member with rfl | ⟨join, among, rfl⟩ | ⟨link, q, inside⟩
  · exact mem_relations.mpr (Or.inl exchanges.relation.symm)
  · rw [exchanges.joins, List.mem_singleton] at among
    exact absurd (congrArg (·.relation.name) among) other
  · refine mem_relations.mpr (Or.inr (Or.inr ⟨link, q, ?_⟩))
    rw [exchanges.conditions]
    exact List.mem_append_left _ inside

theorem relation_cases (exchanges : b.Exchanges b' j r' p) (member : r ∈ b'.relations) :
    r ∈ b.relations ∨ r = r' := by
  rcases mem_relations.mp member with rfl | ⟨join, among, rfl⟩ | ⟨link, q, inside⟩
  · rw [exchanges.relation]
    exact Or.inl (mem_relations.mpr (Or.inl rfl))
  · rw [exchanges.joins'] at among
    cases among
  · rw [exchanges.conditions] at inside
    rcases List.mem_append.mp inside with early | late
    · exact Or.inl (mem_relations.mpr (Or.inr (Or.inr ⟨link, q, early⟩)))
    · cases List.mem_singleton.mp late
      exact Or.inr rfl

theorem kept_column (exchanges : b.Exchanges b' j r' p) (has : db.hasColumn b.relations c = true)
    (other : c.relation ≠ j.relation.name) : db.hasColumn b'.relations c = true := by
  obtain ⟨r, among, own, stored⟩ := Database.hasColumn_iff.mp has
  exact Database.hasColumn_iff.mpr ⟨r, exchanges.kept_relation among (own ▸ other), own, stored⟩

theorem renamed_column (exchanges : b.Exchanges b' j r' p) (has : db.hasColumn b.relations c = true) :
    db.hasColumn b'.relations (j.relation.rename r' c) = true := by
  by_cases own : c.relation = j.relation.name
  · obtain ⟨r, among, named, stored⟩ := Database.hasColumn_iff.mp has
    have moved : j.relation.rename r' c = ⟨r'.name, c.name⟩ := if_pos own
    rw [exchanges.joined_relation among (named.trans own), ← exchanges.table] at stored
    rw [moved]
    exact Database.hasColumn_iff.mpr
      ⟨r', mem_relations.mpr (Or.inr (Or.inr ⟨_, _, exchanges.asked⟩)), rfl, stored⟩
  · rw [Relation.rename_other own]
    exact exchanges.kept_column has own

theorem condition_column (exchanges : b.Exchanges b' j r' p) {d : Condition}
    (inside : d ∈ b.conditions) (read : c ∈ d.columns) : c.relation ≠ j.relation.name := by
  have avoids := exchanges.avoids d inside
  cases d with
  | plain q => exact avoids c read
  | linked r link q => exact avoids.2 c read

theorem condition_cases (exchanges : b.Exchanges b' j r' p) {d : Condition}
    (inside : d ∈ b'.conditions) (read : c ∈ d.columns) : (∃ d ∈ b.conditions, c ∈ d.columns) ∨
      ∃ own, (own ∈ j.link.columns ∨ own ∈ p.columns) ∧ c = j.relation.rename r' own := by
  rw [exchanges.conditions] at inside
  rcases List.mem_append.mp inside with early | late
  · exact Or.inl ⟨d, early, read⟩
  · cases List.mem_singleton.mp late
    rcases List.mem_append.mp read with linking | satisfied
    · rw [Predicate.columns_map] at linking
      obtain ⟨own, among, rfl⟩ := List.mem_map.mp linking
      exact Or.inr ⟨own, Or.inl among, rfl⟩
    · rw [Predicate.columns_map] at satisfied
      obtain ⟨own, among, rfl⟩ := List.mem_map.mp satisfied
      exact Or.inr ⟨own, Or.inr among, rfl⟩

end Exchanges

theorem knows_exchanged (exchanges : b.Exchanges b' j r' p) (label : b'.label = b.label)
    (groups : b'.groups = []) (flagged : ∃ title, ⟨.flag p, title⟩ ∈ b.groups)
    (metrics : ∀ c ∈ b'.metrics.flatMap (·.count.columns), c ∈ b.metrics.flatMap (·.count.columns))
    (under : ∀ c ∈ b.label.column :: b.metrics.flatMap (·.count.columns),
      c.relation = b.relation.name)
    (knows : db.knows b.relations b.columns = true) : db.knows b'.relations b'.columns = true := by
  obtain ⟨tables, columns⟩ := Database.knows_iff.mp knows
  refine Database.knows_iff.mpr ⟨fun r member => ?_, fun c member => ?_⟩
  · rcases exchanges.relation_cases member with own | rfl
    · exact tables r own
    · rw [exchanges.table]
      exact tables j.relation (mem_relations.mpr (Or.inr (Or.inl ⟨j, exchanges.joined, rfl⟩)))
  · rcases mem_columns.mp member with own | ⟨g, inside, _⟩ | ⟨join, inside, _⟩ | ⟨d, inside, read⟩
    · have known : c ∈ b.label.column :: b.metrics.flatMap (·.count.columns) := by
        rw [label] at own
        exact (List.mem_cons.mp own).elim (fun first => first ▸ List.mem_cons_self)
          fun later => List.mem_cons_of_mem _ (metrics c later)
      refine exchanges.kept_column (columns c (mem_columns.mpr (Or.inl known))) ?_
      rw [under c known]
      exact exchanges.other
    · rw [groups] at inside
      cases inside
    · rw [exchanges.joins'] at inside
      cases inside
    · rcases exchanges.condition_cases inside read with ⟨d, early, known⟩ | ⟨own, among, rfl⟩
      · exact exchanges.kept_column
          (columns c (mem_columns.mpr (Or.inr (Or.inr (Or.inr ⟨d, early, known⟩)))))
          (exchanges.condition_column early known)
      · refine exchanges.renamed_column (columns own (mem_columns.mpr (Or.inr ?_)))
        obtain ⟨title, flag⟩ := flagged
        exact among.elim (fun linking => Or.inr (Or.inl ⟨j, exchanges.joined, linking⟩))
          fun satisfied => Or.inl ⟨_, flag, satisfied⟩

end Branch

end Analytics
