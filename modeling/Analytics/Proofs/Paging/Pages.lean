import Analytics.Proofs.Json.Members
import Analytics.Proofs.Paging.Cursors
import Analytics.Proofs.Store.Finite
import Analytics.Service.Engine

/-!
One page of a listing. Its rows come behind the cursor in strict order, and a row of the listing that
it leaves out comes behind its last one, from which the next cursor is made.
-/

namespace Analytics

namespace Direction

def Before : Direction → Int → Int → Prop
  | .ascending, i, j => i < j
  | .descending, i, j => j < i

theorem Before.trans {d : Direction} {i j k : Int} (first : d.Before i j) (second : d.Before j k) :
    d.Before i k := by
  cases d <;> simp only [Before] at * <;> omega

theorem Before.irrefl (d : Direction) (i : Int) : ¬ d.Before i i := by
  cases d <;> simp [Before]

theorem before_or_eq (d : Direction) (i j : Int) : d.Before i j ∨ i = j ∨ d.Before j i := by
  cases d <;> simp only [Before] <;> omega

theorem later_holds (d : Direction) (key after : Int) :
    d.later.holds (compare key after) = true ↔ d.Before after key := by
  cases d with
  | ascending =>
    simp only [later, Comparison.holds, decide_eq_true_eq, compare_gt_iff_gt, Before]
  | descending =>
    simp only [later, Comparison.holds, decide_eq_true_eq, compare_lt_iff_lt, Before]

end Direction

namespace Listing

/-- The key of a row stands in its result, under the name that cursors are read from. -/
structure IsKeyed (l : Listing) : Prop where
  named : l.key.name.text = l.keyField
  listed : l.key ∈ l.columns
  only : ∀ c ∈ l.columns, c.name.text = l.keyField → c = l.key

/-- All rows of a listing's table, before any condition. -/
def rows (l : Listing) (db : Database) : List RowScope := l.relation.extend db []

def keyAt (l : Listing) (s : RowScope) : Int :=
  match s.view.cell l.key with
  | .int i => i
  | _ => 0

/-- A store that a listing can be read from: tables and columns are there, and the key column holds
distinct whole numbers. -/
structure Serves (l : Listing) (db : Database) : Prop where
  known : db.knows l.relations l.readColumns = true
  whole : ∀ s ∈ l.rows db, s.view.cell l.key = .int (l.keyAt s) ∧ fitsWord (l.keyAt s) = true
  kept : ∀ s ∈ l.rows db, (s.view.cell l.key).kept (s.view.affinity l.key) = s.view.cell l.key
  apart : ((l.rows db).map l.keyAt).Nodup

def Matches (l : Listing) (db : Database) (key : Int) : Prop :=
  ∃ s ∈ l.rows db, l.keyAt s = key ∧ l.conditions.all (fun c => c.holds db s) = true

def IsBehind (l : Listing) (after : Option Int) (key : Int) : Prop :=
  ∀ last ∈ after, l.order.Before last key

def keyIn? (l : Listing) (item : ResultRow) : Option Int :=
  (item.lookup l.keyField).bind keyOf?

theorem mem_split_last {α : Type} {a : α} {as : List α} (member : a ∈ as) :
    ∃ front back, as = front ++ a :: back ∧ a ∉ back := by
  obtain ⟨back, front, shape, fresh⟩ :=
    List.eq_append_cons_of_mem (List.mem_reverse.mpr member)
  refine ⟨front.reverse, back.reverse, ?_, mt List.mem_reverse.mp fresh⟩
  rw [← List.reverse_reverse as, shape]
  simp

variable {l : Listing} {db : Database} {after : Option Int}

theorem keyIn?_resultRow (keyed : l.IsKeyed) {s : RowScope}
    (whole : s.view.cell l.key = .int (l.keyAt s)) (fits : fitsWord (l.keyAt s) = true) :
    l.keyIn? (l.resultRow s) = some (l.keyAt s) := by
  obtain ⟨front, back, shape, fresh⟩ := mem_split_last keyed.listed
  have last : l.keyField ∉ (back.map fun c => (c.name.text, (s.view.cell c).toJson)).map (·.1) := by
    intro member
    simp only [List.map_map, List.mem_map, Function.comp_apply] at member
    obtain ⟨c, inBack, named⟩ := member
    have listed : c ∈ l.columns := by
      rw [shape]
      exact List.mem_append_right _ (List.mem_cons_of_mem _ inBack)
    exact fresh (keyed.only c listed named ▸ inBack)
  rw [keyIn?, resultRow, shape, List.map_append, List.map_cons, keyed.named,
    Json.lookup_sortMembers_last last, whole]
  exact if_pos fits

theorem behind_holds (serves : l.Serves db) {s : RowScope} (row : s ∈ l.rows db) (last : Int) :
    (Condition.plain (l.behind last)).holds db s = true ↔ l.order.Before last (l.keyAt s) := by
  obtain ⟨whole, -⟩ := serves.whole s row
  have kept := serves.kept s row
  rw [whole] at kept
  have finite : (Cell.int (l.keyAt s)).IsFinite := ⟨rfl, rfl⟩
  have affinity : (s.view.affinity l.key).common .none = s.view.affinity l.key := by
    cases s.view.affinity l.key <;> rfl
  have size : compare (Cell.int (l.keyAt s)).value (last : ℚ) = compare (l.keyAt s) last :=
    Binary64.compare_whole _ _
  rw [Condition.holds, behind, Predicate.eval]
  simp only [Scalar.eval, Scalar.affinity, Bind.toCell, whole, affinity]
  rw [finite.compareCells_int kept, size, l.order.later_holds]

theorem mem_scopes (serves : l.Serves db) {s : RowScope} : s ∈ l.scopes db after ↔
    s ∈ l.rows db ∧ l.conditions.all (fun c => c.holds db s) = true ∧
      l.IsBehind after (l.keyAt s) := by
  simp only [scopes, rows, List.mem_filter, List.all_append, Bool.and_eq_true]
  refine and_congr_right fun row => and_congr_right fun _ => ?_
  cases after with
  | none => simp [IsBehind]
  | some last => simpa [IsBehind] using behind_holds serves row last

def sorted (l : Listing) (db : Database) (after : Option Int) : List RowScope :=
  (l.scopes db after).mergeSort l.comesFirst

theorem mem_sorted {s : RowScope} : s ∈ l.sorted db after ↔ s ∈ l.scopes db after :=
  (List.mergeSort_perm _ _).mem_iff

theorem comesFirst_trans (s t u : RowScope) (first : l.comesFirst s t = true)
    (second : l.comesFirst t u = true) : l.comesFirst s u = true := by
  unfold comesFirst at *
  cases order : l.order with
  | ascending =>
    simp only [order, decide_eq_true_eq] at *
    exact Cell.order_trans first second
  | descending =>
    simp only [order, decide_eq_true_eq] at *
    have swap (c d : Cell) : Cell.order c d ≠ .lt ↔ Cell.order d c ≠ .gt :=
      not_congr Std.OrientedCmp.gt_iff_lt.symm
    rw [swap] at *
    exact Cell.order_trans second first

theorem comesFirst_total (s t : RowScope) : (l.comesFirst s t || l.comesFirst t s) = true := by
  unfold comesFirst
  have swap (c d : Cell) : Cell.order c d ≠ .lt ↔ Cell.order d c ≠ .gt :=
    not_congr Std.OrientedCmp.gt_iff_lt.symm
  cases l.order with
  | ascending =>
    simp only [Bool.or_eq_true, decide_eq_true_eq]
    exact Cell.order_total _ _
  | descending =>
    simp only [Bool.or_eq_true, decide_eq_true_eq, swap]
    exact Cell.order_total _ _

theorem comesFirst_keys (serves : l.Serves db) {s t : RowScope} (row : s ∈ l.rows db)
    (row' : t ∈ l.rows db) (first : l.comesFirst s t = true) (other : l.keyAt s ≠ l.keyAt t) :
    l.order.Before (l.keyAt s) (l.keyAt t) := by
  unfold comesFirst at first
  rw [(serves.whole s row).1, (serves.whole t row').1] at first
  cases order : l.order with
  | ascending =>
    simp only [order, Cell.order, decide_eq_true_eq, ne_eq, compare_gt_iff_gt] at first
    simp only [Direction.Before]
    omega
  | descending =>
    simp only [order, Cell.order, decide_eq_true_eq, ne_eq, compare_lt_iff_lt] at first
    simp only [Direction.Before]
    omega

theorem sorted_keys (serves : l.Serves db) :
    ((l.sorted db after).map l.keyAt).Pairwise l.order.Before := by
  have rows {s : RowScope} (member : s ∈ l.sorted db after) : s ∈ l.rows db :=
    ((mem_scopes serves).mp (mem_sorted.mp member)).1
  have apart : ((l.sorted db after).map l.keyAt).Nodup := by
    have kept : ((l.scopes db after).map l.keyAt).Nodup :=
      serves.apart.sublist (List.filter_sublist.map l.keyAt)
    exact (((List.mergeSort_perm _ _).map l.keyAt).nodup_iff).mpr kept
  have order : (l.sorted db after).Pairwise fun s t => l.comesFirst s t = true :=
    List.pairwise_mergeSort comesFirst_trans comesFirst_total (l.scopes db after)
  refine List.pairwise_map.mpr ?_
  have both := order.and (List.pairwise_map.mp apart)
  exact both.imp_of_mem fun first second held =>
    comesFirst_keys serves (rows first) (rows second) held.1 held.2

/-- A page with the keys of its rows: what it shows, and what it leaves for the pages behind it. -/
structure IsPage (l : Listing) (db : Database) (after : Option Int) (page : Page)
    (keys : List Int) : Prop where
  shown : page.items.map l.keyIn? = keys.map some
  ordered : keys.Pairwise l.order.Before
  behind : ∀ key ∈ keys, l.IsBehind after key
  /-- The last page leaves out no row. -/
  ended : page.next = none → ∀ key, l.Matches db key → l.IsBehind after key → key ∈ keys
  /-- The cursor of another page is its last key, before which no row is left out. -/
  continued : ∀ cursor ∈ page.next, ∃ last, cursor = Cursor.encode last ∧ fitsWord last = true ∧
    l.IsBehind after last ∧ (∀ key ∈ keys, ¬ l.order.Before last key) ∧
    ∀ key, l.Matches db key → l.IsBehind after key → key ∈ keys ∨ l.IsBehind (some last) key

def shownRows (l : Listing) (db : Database) (after : Option Int) : List RowScope :=
  (l.sorted db after).take l.limit.toNat

theorem listing?_eq (serves : l.Serves db) (positive : 1 ≤ l.limit) :
    db.listing? l after = some ((l.shownRows db after).map l.resultRow) := by
  rw [Database.listing?, if_pos serves.known, cut, if_neg (by omega)]
  rfl

theorem nextCursor_eq {rows : List RowScope}
    (shows : ∀ s ∈ rows, l.keyIn? (l.resultRow s) = some (l.keyAt s)) :
    l.nextCursor (rows.map l.resultRow) = .ok (if (rows.length : Int) < l.limit then none
      else rows.getLast?.map fun s => Cursor.encode (l.keyAt s)) := by
  rw [nextCursor, List.length_map]
  split
  case isTrue => rfl
  case isFalse full =>
    rw [List.getLast?_map]
    cases last : rows.getLast? with
    | none => rfl
    | some s =>
      have shown := shows s (List.mem_of_getLast? last)
      rw [keyIn?] at shown
      simp only [Option.map_some, shown]

theorem page_encode (fits : ∀ last ∈ after, fitsWord last = true)
    (rows : Option Int → Checked (List ResultRow)) : l.page rows (after.map Cursor.encode)
      = match rows after with
        | .error e => .error e
        | .ok items => (l.nextCursor items).map (⟨items, ·⟩) := by
  cases after with
  | none => rfl
  | some last =>
    rw [Option.map_some, page]
    simp only [Cursor.decode_encode (fits last rfl)]
    rfl

theorem mem_shownRows (serves : l.Serves db) {s : RowScope} (shown : s ∈ l.shownRows db after) :
    s ∈ l.rows db ∧ l.conditions.all (fun c => c.holds db s) = true ∧
      l.IsBehind after (l.keyAt s) :=
  (mem_scopes serves).mp (mem_sorted.mp (List.mem_of_mem_take shown))

theorem keyIn?_shown (keyed : l.IsKeyed) (serves : l.Serves db) {s : RowScope}
    (shown : s ∈ l.shownRows db after) : l.keyIn? (l.resultRow s) = some (l.keyAt s) := by
  obtain ⟨whole, fit⟩ := serves.whole s (mem_shownRows serves shown).1
  exact keyIn?_resultRow keyed whole fit

theorem page_eq (keyed : l.IsKeyed) (positive : 1 ≤ l.limit) (serves : l.Serves db)
    (fits : ∀ last ∈ after, fitsWord last = true) : Engine.page db l (after.map Cursor.encode)
      = .ok ⟨(l.shownRows db after).map l.resultRow,
          if ((l.shownRows db after).length : Int) < l.limit then none
          else (l.shownRows db after).getLast?.map fun s => Cursor.encode (l.keyAt s)⟩ := by
  simp only [Engine.page, page_encode fits, listing?_eq serves positive,
    nextCursor_eq fun s shown => keyIn?_shown keyed serves shown]
  rfl

theorem page_ok (keyed : l.IsKeyed) (positive : 1 ≤ l.limit) (serves : l.Serves db)
    (fits : ∀ last ∈ after, fitsWord last = true) :
    ∃ page, Engine.page db l (after.map Cursor.encode) = .ok page ∧
      l.IsPage db after page ((l.shownRows db after).map l.keyAt) := by
  have member {s : RowScope} (shown : s ∈ l.shownRows db after) := mem_shownRows serves shown
  -- A row that is left out comes behind the rows of the page.
  have split : l.sorted db after = l.shownRows db after ++ (l.sorted db after).drop l.limit.toNat :=
    (List.take_append_drop _ _).symm
  have order : ((l.sorted db after).map l.keyAt).Pairwise l.order.Before := sorted_keys serves
  rw [split, List.map_append, List.pairwise_append] at order
  obtain ⟨ordered, -, across⟩ := order
  have left {key : Int} (found : l.Matches db key) (behind : l.IsBehind after key) :
      key ∈ (l.shownRows db after).map l.keyAt ∨
        key ∈ ((l.sorted db after).drop l.limit.toNat).map l.keyAt := by
    obtain ⟨s, row, rfl, holds⟩ := found
    have sorted := mem_sorted.mpr ((mem_scopes serves).mpr ⟨row, holds, behind⟩)
    rw [split] at sorted
    rcases List.mem_append.mp sorted with shown | left
    · exact .inl (List.mem_map_of_mem shown)
    · exact .inr (List.mem_map_of_mem left)
  refine ⟨_, page_eq keyed positive serves fits, ?_⟩
  constructor
  case shown =>
    rw [List.map_map, List.map_map]
    exact List.map_congr_left fun s shown => keyIn?_shown keyed serves shown
  case ordered => exact ordered
  case behind =>
    intro key shown
    obtain ⟨s, row, rfl⟩ := List.mem_map.mp shown
    exact (member row).2.2
  case ended =>
    intro ended key found behind
    refine (left found behind).resolve_right fun past => ?_
    -- A page without cursor is not full, so nothing was cut.
    have short : ((l.shownRows db after).length : Int) < l.limit := by
      by_contra full
      rw [if_neg full, Option.map_eq_none_iff, List.getLast?_eq_none_iff] at ended
      rw [ended] at full
      exact full (by simp; omega)
    have all : (l.sorted db after).drop l.limit.toNat = [] := by
      rw [List.drop_eq_nil_iff]
      rw [shownRows, List.length_take] at short
      omega
    rw [all] at past
    cases past
  case continued =>
    intro cursor next
    have full : ¬ ((l.shownRows db after).length : Int) < l.limit := by
      intro short
      rw [if_pos short] at next
      cases next
    rw [if_neg full] at next
    obtain ⟨s, last, rfl⟩ := Option.map_eq_some_iff.mp next
    have shown := List.mem_of_getLast? last
    obtain ⟨front, shape⟩ := List.getLast?_eq_some_iff.mp last
    refine ⟨l.keyAt s, rfl, (serves.whole s (member shown).1).2, (member shown).2.2, ?_, ?_⟩
    · intro key among before
      rw [shape, List.map_append, List.pairwise_append] at ordered
      rw [shape, List.map_append] at among
      rcases List.mem_append.mp among with earlier | here
      · have first := ordered.2.2 key earlier (l.keyAt s) (List.mem_singleton.mpr rfl)
        exact Direction.Before.irrefl _ _ (first.trans before)
      · obtain rfl := List.mem_singleton.mp here
        exact Direction.Before.irrefl _ _ before
    · intro key found behind
      refine (left found behind).imp id fun past => ?_
      rintro _ ⟨⟩
      exact across _ (List.mem_map_of_mem shown) _ past

end Listing

end Analytics
