import Analytics.Proofs.Paging.Run

/-!
All pages of a listing over a store that stays as it is. A page shows the first of the rows that are
left and leaves the others to the page behind it, so the pages together show each row that matches
once, in the order of the listing; the run ends with the first page that is not full.
-/

namespace Analytics

namespace Listing

variable {l : Listing} {db : Database} {after : Option Int}

def matching (l : Listing) (db : Database) : List RowScope :=
  (l.rows db).filter fun s => l.conditions.all fun c => c.holds db s

theorem scopes_matching {s : RowScope} (member : s ∈ l.scopes db after) :
    s ∈ l.matching db := by
  obtain ⟨row, holds⟩ := List.mem_filter.mp member
  rw [List.all_append, Bool.and_eq_true] at holds
  exact List.mem_filter.mpr ⟨row, holds.1⟩

theorem sorted_start : (l.sorted db none).Perm (l.matching db) := by
  have all : l.scopes db none = l.matching db := by
    simp only [scopes, matching, rows, List.append_nil]
  rw [← all]
  exact List.mergeSort_perm _ _

theorem cut_sublist {α : Type} (limit : Int) (rows : List α) : (cut limit rows).Sublist rows := by
  unfold cut
  split
  · exact List.Sublist.refl rows
  · exact List.take_sublist _ _

structure IsRead (l : Listing) (db : Database) (page : Page) : Prop where
  known : db.knows l.relations l.readColumns = true
  sound : ∀ item ∈ page.items, ∃ s ∈ l.matching db, item = l.resultRow s

theorem page_read {cursor : Option String} {page : Page}
    (read : Engine.page db l cursor = .ok page) : l.IsRead db page := by
  unfold Engine.page Listing.page at read
  dsimp only at read
  split at read
  · cases read
  rename_i after _
  split at read
  · cases read
  rename_i items answered
  obtain ⟨next, goesOn, rfl⟩ := map_ok read
  split at answered
  · rename_i rows listed
    cases answered
    unfold Database.listing? at listed
    split at listed
    · rename_i known
      cases listed
      refine ⟨known, fun item shown => ?_⟩
      obtain ⟨s, kept, rfl⟩ := List.mem_map.mp shown
      have member := List.mem_mergeSort.mp ((cut_sublist _ _).subset kept)
      exact ⟨s, scopes_matching member, rfl⟩
    · cases listed
  · cases answered

theorem ordered_unique {rows rows' : List RowScope}
    (ordered : (rows.map l.keyAt).Pairwise l.order.Before)
    (ordered' : (rows'.map l.keyAt).Pairwise l.order.Before)
    (same : ∀ s, s ∈ rows ↔ s ∈ rows') : rows = rows' := by
  have once {rows : List RowScope} (ordered : (rows.map l.keyAt).Pairwise l.order.Before) :
      rows.Nodup := by
    refine List.Nodup.of_map l.keyAt (ordered.imp ?_)
    rintro i _ before rfl
    exact Direction.Before.irrefl l.order i before
  have perm := (List.perm_ext_iff_of_nodup (once ordered) (once ordered')).mpr same
  refine perm.eq_of_pairwise (fun s t _ _ first second => ?_) (List.pairwise_map.mp ordered)
    (List.pairwise_map.mp ordered')
  exact absurd (first.trans second) (Direction.Before.irrefl l.order _)

theorem sorted_behind (serves : l.Serves db) {front back : List RowScope} {s : RowScope}
    (split : l.sorted db after = front ++ s :: back) :
    l.sorted db (some (l.keyAt s)) = back := by
  have order : ((l.sorted db after).map l.keyAt).Pairwise l.order.Before := sorted_keys serves
  have left {t : RowScope} : t ∈ l.sorted db after ↔ t ∈ front ∨ t = s ∨ t ∈ back := by
    rw [split, List.mem_append, List.mem_cons]
  have own := (mem_scopes serves).mp (mem_sorted.mp (left.mpr (.inr (.inl rfl))))
  rw [split, List.map_append, List.map_cons, List.pairwise_append, List.pairwise_cons] at order
  obtain ⟨-, ⟨later, ordered⟩, across⟩ := order
  refine ordered_unique (sorted_keys serves) ordered fun t => ?_
  rw [mem_sorted, mem_scopes serves]
  constructor
  · rintro ⟨row, holds, behind⟩
    have past := behind (l.keyAt s) rfl
    have among : t ∈ l.sorted db after := mem_sorted.mpr ((mem_scopes serves).mpr
      ⟨row, holds, fun start seen => (own.2.2 start seen).trans past⟩)
    rcases left.mp among with early | rfl | late
    · have before := across _ (List.mem_map_of_mem early) _ List.mem_cons_self
      exact absurd (before.trans past) (Direction.Before.irrefl _ _)
    · exact absurd past (Direction.Before.irrefl _ _)
    · exact late
  · intro late
    obtain ⟨row, holds, -⟩ := (mem_scopes serves).mp (mem_sorted.mp (left.mpr (.inr (.inr late))))
    refine ⟨row, holds, ?_⟩
    rintro _ ⟨⟩
    exact later _ (List.mem_map_of_mem late)

/-- The pages that show some rows to the end. -/
structure Shows (l : Listing) (rows : List RowScope) (pages : List Page) : Prop where
  ended : Ended pages
  count : pages.length = rows.length / l.limit.toNat + 1
  small : ∀ page ∈ pages, page.items.length ≤ l.limit.toNat
  items : pages.flatMap Page.items = rows.map l.resultRow

theorem Shows.cons {rows : List RowScope} {pages : List Page} (positive : 1 ≤ l.limit)
    (full : l.limit.toNat ≤ rows.length) (shows : l.Shows (rows.drop l.limit.toNat) pages)
    (next : Option String) :
    l.Shows rows (⟨(rows.take l.limit.toNat).map l.resultRow, next⟩ :: pages) where
  ended := shows.ended.cons _
  count := by
    rw [List.length_cons, shows.count, List.length_drop, Nat.div_eq_sub_div (by omega) full]
  small := by
    refine List.forall_mem_cons.mpr ⟨?_, shows.small⟩
    rw [List.length_map, List.length_take]
    exact Nat.min_le_left _ _
  items := by
    rw [List.flatMap_cons, shows.items, ← List.map_append, List.take_append_drop]

theorem Shows.last {rows : List RowScope} (short : rows.length < l.limit.toNat) :
    l.Shows rows [⟨rows.map l.resultRow, none⟩] where
  ended := ⟨_, rfl, rfl⟩
  count := by rw [Nat.div_eq_of_lt short]; rfl
  small := by
    rw [List.forall_mem_singleton, List.length_map]
    exact Nat.le_of_lt short
  items := List.flatMap_singleton _ _

section

variable {cursor : Option String} {page : Page}

theorem follow_last (read : Engine.page db l cursor = .ok page) (ended : page.next = none) (m : Nat) :
    l.follow cursor (List.replicate m db) = .ok ([page].take m) := by
  cases m with
  | zero => rfl
  | succ m =>
    rw [List.take_succ_cons, List.take_nil]
    simp only [List.replicate_succ, follow, read, ended]

theorem follow_next (read : Engine.page db l cursor = .ok page) {next : String}
    (goesOn : page.next = some next) {pages : List Page}
    (later : ∀ m, l.follow (some next) (List.replicate m db) = .ok (pages.take m)) (m : Nat) :
    l.follow cursor (List.replicate m db) = .ok ((page :: pages).take m) := by
  cases m with
  | zero => rfl
  | succ m =>
    rw [List.take_succ_cons]
    simp only [List.replicate_succ, follow, read, goesOn, later]
    rfl

end

/-- Over a store that stays as it is, following cursors gives the pages that show the rows left, as
many of them as are asked for. -/
theorem follow_shows (keyed : l.IsKeyed) (positive : 1 ≤ l.limit) (serves : l.Serves db)
    (fits : ∀ last ∈ after, fitsWord last = true) : ∃ pages, l.Shows (l.sorted db after) pages ∧
      ∀ m, l.follow (after.map Cursor.encode) (List.replicate m db) = .ok (pages.take m) := by
  -- The rows left become fewer with each page.
  induction size : (l.sorted db after).length using Nat.strong_induction_on generalizing after with
  | h n ih =>
    have page := page_eq keyed positive serves fits
    by_cases short : (l.sorted db after).length < l.limit.toNat
    case pos =>
      have all : l.shownRows db after = l.sorted db after := List.take_of_length_le (by omega)
      rw [all, if_pos (by omega)] at page
      exact ⟨_, .last short, follow_last page rfl⟩
    case neg =>
      have full : l.limit.toNat ≤ (l.sorted db after).length := Nat.le_of_not_lt short
      have count : (l.shownRows db after).length = l.limit.toNat := List.length_take_of_le full
      obtain ⟨front, s, shape⟩ : ∃ front s, l.shownRows db after = front ++ [s] :=
        ⟨_, _, (List.dropLast_append_getLast (List.ne_nil_of_length_pos (by omega))).symm⟩
      have shown : s ∈ l.shownRows db after := by simp [shape]
      have fit : ∀ last ∈ some (l.keyAt s), fitsWord last = true := by
        rintro _ ⟨⟩
        exact (serves.whole s (mem_shownRows serves shown).1).2
      have left : l.sorted db (some (l.keyAt s)) = (l.sorted db after).drop l.limit.toNat := by
        have split : l.sorted db after = front ++ s :: (l.sorted db after).drop l.limit.toNat := by
          rw [← List.singleton_append, ← List.append_assoc, ← shape]
          exact (List.take_append_drop _ _).symm
        exact sorted_behind serves split
      obtain ⟨pages, shows, later⟩ := ih (l.sorted db (some (l.keyAt s))).length
        (by rw [left, List.length_drop]; omega) fit rfl
      rw [if_neg (by omega)] at page
      refine ⟨_, .cons positive full (left ▸ shows) _, follow_next page ?_ later⟩
      rw [shape, List.getLast?_concat]
      rfl

/-- A client that follows cursors from the start over a store that stays as it is reads one page more
than full ones can be made of the rows that match, however many more it would read. No page has more
rows than the limit, and together they are those rows, each once, in the order of the listing. -/
theorem pages_exact (l : Listing) (keyed : l.IsKeyed) (positive : 1 ≤ l.limit) (db : Database)
    (serves : l.Serves db) : ∃ (pages : List Page) (rows : List RowScope),
      (∀ m, l.follow none (List.replicate m db) = .ok (pages.take m)) ∧ Ended pages ∧
      pages.length = (l.matching db).length / l.limit.toNat + 1 ∧
      (∀ page ∈ pages, (page.items.length : Int) ≤ l.limit) ∧
      pages.flatMap Page.items = rows.map l.resultRow ∧ rows.Perm (l.matching db) ∧
      (rows.map l.keyAt).Pairwise l.order.Before := by
  have fits : ∀ last ∈ (none : Option Int), fitsWord last = true := by simp
  obtain ⟨pages, shows, followed⟩ := follow_shows keyed positive serves fits
  have count : (l.sorted db none).length = (l.matching db).length := sorted_start.length_eq
  refine ⟨pages, l.sorted db none, followed, shows.ended, count ▸ shows.count, fun page among => ?_,
    shows.items, sorted_start, sorted_keys serves⟩
  have small := shows.small page among
  omega

theorem pages_exact_sample : sampleListing.Serves (sampleState [4, 1, 5, 2]) ∧
    ∃ (pages : List Page) (rows : List RowScope),
      (∀ m, sampleListing.follow none (List.replicate m (sampleState [4, 1, 5, 2]))
        = .ok (pages.take m)) ∧ Ended pages ∧ pages.length = 3 ∧
      pages.flatMap Page.items = rows.map sampleListing.resultRow ∧
      (rows.map sampleListing.keyAt).Pairwise (fun i j => j < i) := by
  have serves : sampleListing.Serves (sampleState [4, 1, 5, 2]) :=
    ⟨by decide +kernel, by decide +kernel, by decide +kernel, by decide +kernel⟩
  obtain ⟨pages, rows, followed, ended, count, -, items, -, ordered⟩ :=
    pages_exact sampleListing ⟨rfl, by decide, by decide⟩ (by decide) _ serves
  have four : (sampleListing.matching (sampleState [4, 1, 5, 2])).length = 4 := by decide +kernel
  rw [four] at count
  exact ⟨serves, pages, rows, followed, ended, count, items, ordered⟩

end Listing

namespace Engine

/-- A client that follows the cursors of a listing of events, nothing being written meanwhile, comes
to the end and has seen as many events as match. -/
theorem followEvents_whole {e : Engine} {r : EventListRequest} {limit : Int} {l : Listing}
    (limited : e.pageLimit? r.limit = some limit) (made : r.listing limit = .ok l) {w : World}
    (serves : l.Serves w.internal) {n : Nat} (enough : (l.rows w.internal).length < n) : ∃ pages,
      e.followEvents r none (List.replicate n w) = .ok pages ∧ Ended pages ∧
      (pages.flatMap Page.items).length = (l.matching w.internal).length := by
  obtain ⟨keyed, same⟩ := EventListRequest.listing_keyed made
  have positive : 1 ≤ l.limit := same ▸ pageLimit?_positive limited
  have fits : ∀ last ∈ (none : Option Int), fitsWord last = true := by simp
  obtain ⟨pages, shows, followed⟩ := Listing.follow_shows keyed positive serves fits
  have count : (l.sorted w.internal none).length = (l.matching w.internal).length :=
    Listing.sorted_start.length_eq
  have few : pages.length ≤ n := by
    have matched : (l.matching w.internal).length ≤ (l.rows w.internal).length :=
      List.length_filter_le _ _
    have parts := Nat.div_le_self (l.matching w.internal).length l.limit.toNat
    rw [shows.count, count]
    omega
  refine ⟨pages, ?_, shows.ended, ?_⟩
  · have read := followed n
    rwa [List.take_of_length_le few, Option.map_none, ← List.map_replicate,
      ← followEvents_eq limited made] at read
  · rw [shows.items, List.length_map, count]

end Engine

end Analytics
