import Analytics.Proofs.Paging.Pages
import Analytics.Proofs.Query.Checks

/-!
Following cursors. Each page is read from the store as it is then, so rows come, change and go
between pages. No key is shown twice, and a row that is there all the time is shown once the pages end.
-/

namespace Analytics

def Ended (pages : List Page) : Prop := ∃ last, pages.getLast? = some last ∧ last.next = none

theorem Ended.cons {pages : List Page} (ended : Ended pages) (page : Page) :
    Ended (page :: pages) := by
  obtain ⟨last, found, none⟩ := ended
  refine ⟨last, ?_, none⟩
  rw [List.getLast?_cons, found]
  rfl

namespace Listing

variable {l : Listing}

/-- The pages behind a cursor, one from each state of the store until there is no next cursor. -/
def follow (l : Listing) : Option String → List Database → Checked (List Page)
  | _, [] => .ok []
  | cursor, db :: later =>
    match Engine.page db l cursor with
    | .error e => .error e
    | .ok page =>
      match page.next with
      | none => .ok [page]
      | some next => (l.follow (some next) later).map (page :: ·)

structure IsRun (l : Listing) (states : List Database) (after : Option Int) (pages : List Page)
    (keys : List Int) : Prop where
  shown : (pages.flatMap Page.items).map l.keyIn? = keys.map some
  ordered : keys.Pairwise l.order.Before
  behind : ∀ key ∈ keys, l.IsBehind after key
  /-- A run that has not ended has read a page from each state. -/
  lasting : Ended pages ∨ pages.length = states.length
  complete : Ended pages → ∀ key, l.IsBehind after key →
    (∀ db ∈ states.take pages.length, l.Matches db key) → key ∈ keys

theorem IsPage.run {db : Database} {after : Option Int} {page : Page} {keys : List Int}
    (spec : l.IsPage db after page keys) (ended : page.next = none) (later : List Database) :
    l.IsRun (db :: later) after [page] keys where
  shown := by
    rw [List.flatMap_singleton]
    exact spec.shown
  ordered := spec.ordered
  behind := spec.behind
  lasting := .inl ⟨page, rfl, ended⟩
  complete := fun _ key behind always => spec.ended ended key (always db List.mem_cons_self) behind

theorem IsPage.cons_run {db : Database} {after : Option Int} {page : Page} {keys : List Int}
    (spec : l.IsPage db after page keys) {last : Int} (next : page.next = some (Cursor.encode last))
    (behind : l.IsBehind after last) (nothing : ∀ key ∈ keys, ¬ l.order.Before last key)
    (left : ∀ key, l.Matches db key → l.IsBehind after key →
      key ∈ keys ∨ l.IsBehind (some last) key)
    {later : List Database} {pages : List Page} {rest : List Int}
    (run : l.IsRun later (some last) pages rest) :
    l.IsRun (db :: later) after (page :: pages) (keys ++ rest) where
  shown := by
    rw [List.flatMap_cons, List.map_append, List.map_append, spec.shown, run.shown]
  ordered := by
    refine List.pairwise_append.mpr ⟨spec.ordered, run.ordered, fun key early key' late => ?_⟩
    have after_ := run.behind key' late last rfl
    rcases l.order.before_or_eq key last with first | rfl | past
    · exact first.trans after_
    · exact after_
    · exact absurd past (nothing key early)
  behind := by
    intro key member
    rcases List.mem_append.mp member with early | late
    · exact spec.behind key early
    · exact fun start seen => (behind start seen).trans (run.behind key late last rfl)
  lasting := run.lasting.imp (·.cons page) (congrArg (· + 1))
  complete := by
    rintro ⟨final, found, ended⟩ key past always
    have goesOn : pages ≠ [] := by
      rintro rfl
      rw [List.getLast?_singleton, Option.some.injEq] at found
      rw [found, ended] at next
      cases next
    have ends : Ended pages := ⟨final, by rwa [List.getLast?_cons_of_ne_nil goesOn] at found, ended⟩
    refine List.mem_append.mpr ?_
    rcases left key (always db List.mem_cons_self) past with early | late
    · exact .inl early
    · exact .inr (run.complete ends key late fun db member =>
        always db (List.mem_cons_of_mem _ member))

theorem follow_ok (keyed : l.IsKeyed) (positive : 1 ≤ l.limit) {states : List Database}
    (serves : ∀ db ∈ states, l.Serves db) {after : Option Int}
    (fits : ∀ last ∈ after, fitsWord last = true) : ∃ pages keys,
      l.follow (after.map Cursor.encode) states = .ok pages ∧ l.IsRun states after pages keys := by
  induction states generalizing after with
  | nil =>
    refine ⟨[], [], rfl, rfl, .nil, by simp, .inr rfl, ?_⟩
    rintro ⟨final, found, -⟩
    cases found
  | cons db later ih =>
    obtain ⟨here, others⟩ := List.forall_mem_cons.mp serves
    obtain ⟨page, read, spec⟩ := page_ok keyed positive here fits
    cases next : page.next with
    | none =>
      refine ⟨[page], _, ?_, spec.run next later⟩
      simp only [follow, read, next]
    | some cursor =>
      obtain ⟨last, rfl, fit, behind, nothing, left⟩ := spec.continued cursor next
      have fits' : ∀ seen ∈ some last, fitsWord seen = true := by
        rintro _ ⟨⟩
        exact fit
      obtain ⟨pages, rest, followed, run⟩ := ih others fits'
      refine ⟨page :: pages, _, ?_, spec.cons_run next behind nothing left run⟩
      rw [Option.map_some] at followed
      simp only [follow, read, next, followed]
      rfl

theorem follow_start (keyed : l.IsKeyed) (positive : 1 ≤ l.limit) {states : List Database}
    (serves : ∀ db ∈ states, l.Serves db) : ∃ pages keys,
      l.follow none states = .ok pages ∧ l.IsRun states none pages keys := by
  have fits : ∀ last ∈ (none : Option Int), fitsWord last = true := by simp
  exact follow_ok keyed positive serves fits

/-- A run of pages shows keys in strict order, so none twice, and once it has ended it has shown
every key whose row matched in all states of the store. -/
theorem run_in_order (l : Listing) (keyed : l.IsKeyed) (positive : 1 ≤ l.limit)
    (states : List Database) (serves : ∀ db ∈ states, l.Serves db) :
    ∃ (pages : List Page) (keys : List Int), l.follow none states = .ok pages ∧
      (Ended pages ∨ pages.length = states.length) ∧
      (pages.flatMap Page.items).map l.keyIn? = keys.map some ∧
      keys.Pairwise l.order.Before ∧
      (Ended pages → ∀ key, (∀ db ∈ states.take pages.length, l.Matches db key) → key ∈ keys) := by
  obtain ⟨pages, keys, followed, run⟩ := follow_start keyed positive serves
  exact ⟨pages, keys, followed, run.lasting, run.shown, run.ordered,
    fun ended key always => run.complete ended key (by simp [IsBehind]) always⟩

def sampleListing : Listing where
  insightId := "site"
  insightType := .internal
  relation := Internal.event
  columns := [Internal.eventName, Internal.id]
  key := Internal.id
  keyField := "id"
  conditions := [.plain (Internal.scope "site")]
  order := .descending
  limit := 2

def sampleState (numbers : List Int) : Database :=
  (sampleWorld ⟨sampleColumns,
    numbers.map fun i => [("id", .int i), ("website_id", .text "site")]⟩).internal

theorem run_in_order_sample : (∀ db ∈ [sampleState [1, 2, 4, 5], sampleState [2, 3, 5, 6]],
      sampleListing.Serves db) ∧
    ∃ (pages : List Page) (keys : List Int), sampleListing.follow none
        [sampleState [1, 2, 4, 5], sampleState [2, 3, 5, 6]] = .ok pages ∧
      (Ended pages ∨ pages.length = 2) ∧
      (pages.flatMap Page.items).map sampleListing.keyIn? = keys.map some ∧
      keys.Pairwise (fun i j => j < i) ∧
      (Ended pages → ∀ key, (∀ db ∈ [sampleState [1, 2, 4, 5], sampleState [2, 3, 5, 6]].take
        pages.length, sampleListing.Matches db key) → key ∈ keys) := by
  have serves : ∀ db ∈ [sampleState [1, 2, 4, 5], sampleState [2, 3, 5, 6]],
      sampleListing.Serves db := by
    intro db member
    rcases List.mem_cons.mp member with rfl | member
    · exact ⟨by decide +kernel, by decide +kernel, by decide +kernel, by decide +kernel⟩
    · obtain rfl := List.mem_singleton.mp member
      exact ⟨by decide +kernel, by decide +kernel, by decide +kernel, by decide +kernel⟩
  exact ⟨serves, run_in_order sampleListing ⟨rfl, by decide, by decide⟩ (by decide) _ serves⟩

end Listing

namespace EventListRequest

theorem listing_keyed {r : EventListRequest} {limit : Int} {l : Listing}
    (made : r.listing limit = .ok l) : l.IsKeyed ∧ l.limit = limit := by
  have only : ∀ c ∈ columns, c.name.text = "id" → c = Internal.id := by decide
  unfold listing at made
  cases time : r.timeConditions with
  | error e =>
    rw [time] at made
    cases made
  | ok conditions =>
    rw [time] at made
    obtain ⟨filters, -, rfl⟩ := map_ok made
    exact ⟨⟨rfl, List.mem_cons_self, only⟩, rfl⟩

end EventListRequest

namespace Engine

def followEvents (e : Engine) (r : EventListRequest) :
    Option String → List World → Checked (List Page)
  | _, [] => .ok []
  | cursor, w :: later =>
    match e.listEvents w { r with cursor := cursor } with
    | .error fault => .error fault
    | .ok page =>
      match page.next with
      | none => .ok [page]
      | some next => (e.followEvents r (some next) later).map (page :: ·)

theorem listEvents_eq {e : Engine} {r : EventListRequest} {limit : Int} {l : Listing}
    (limited : e.pageLimit? r.limit = some limit) (made : r.listing limit = .ok l)
    (cursor : Option String) (w : World) :
    e.listEvents w { r with cursor := cursor } = page w.internal l cursor := by
  have made' : EventListRequest.listing { r with cursor := cursor } limit = .ok l := made
  rw [listEvents, limited]
  simp only [made']

theorem followEvents_eq {e : Engine} {r : EventListRequest} {limit : Int} {l : Listing}
    (limited : e.pageLimit? r.limit = some limit) (made : r.listing limit = .ok l)
    (cursor : Option String) (worlds : List World) :
    e.followEvents r cursor worlds = l.follow cursor (worlds.map (·.internal)) := by
  induction worlds generalizing cursor with
  | nil => rfl
  | cons w later ih =>
    simp only [followEvents, List.map_cons, Listing.follow, listEvents_eq limited made, ih]

theorem pageLimit?_positive {e : Engine} {asked : Option Int} {limit : Int}
    (limited : e.pageLimit? asked = some limit) : 1 ≤ limit := by
  unfold pageLimit? at limited
  split at limited
  · obtain rfl := Option.some.inj limited
    omega
  · cases limited

/-- A client that follows the cursors of a listing of events sees no event twice, and in the end
every event that matched all the time. -/
theorem followEvents_in_order {e : Engine} {r : EventListRequest} {limit : Int} {l : Listing}
    (limited : e.pageLimit? r.limit = some limit) (made : r.listing limit = .ok l)
    {worlds : List World} (serves : ∀ w ∈ worlds, l.Serves w.internal) : ∃ pages keys,
      e.followEvents r none worlds = .ok pages ∧
      l.IsRun (worlds.map (·.internal)) none pages keys := by
  obtain ⟨keyed, same⟩ := EventListRequest.listing_keyed made
  have positive : 1 ≤ l.limit := same ▸ pageLimit?_positive limited
  obtain ⟨pages, keys, followed, run⟩ := Listing.follow_start keyed positive
    (List.forall_mem_map.mpr serves)
  refine ⟨pages, keys, ?_, run⟩
  rw [followEvents_eq limited made]
  exact followed

end Engine

end Analytics
