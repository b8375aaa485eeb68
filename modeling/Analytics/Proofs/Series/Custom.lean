import Analytics.Proofs.Series.Merging
import Analytics.Proofs.Series.Names

/-!
Series of custom groups. Where every group is custom, the ledger is opened with an entry for each way to
choose a bucket of every group, in the order in which the choices are listed, and no row adds one. Main
statement: the request alone tells how many series there are and which, whatever rows are read.
-/

namespace Analytics

section

variable {α : Type} {lists : List (List α)}

theorem combinations_length (lists : List (List α)) :
    (combinations lists).length = (lists.map List.length).prod := by
  induction lists with
  | nil => rfl
  | cons first rest ih =>
    rw [combinations, List.length_flatMap, List.map_cons, List.prod_cons, ← ih]
    simp only [List.length_map, List.map_const', List.sum_replicate_nat]

theorem combinations_sorted {before : α → α → Prop}
    (sorted : ∀ choices ∈ lists, choices.Pairwise before) :
    (combinations lists).Pairwise (List.Lex before) := by
  induction lists with
  | nil => exact List.pairwise_singleton _ []
  | cons first rest ih =>
    obtain ⟨own, others⟩ := List.forall_mem_cons.mp sorted
    apply List.pairwise_flatMap.mpr
    constructor
    · intro choice _
      exact List.pairwise_map.mpr ((ih others).imp .cons)
    · refine own.imp fun {a b} ahead k left l right => ?_
      obtain ⟨_, _, rfl⟩ := List.mem_map.mp left
      obtain ⟨_, _, rfl⟩ := List.mem_map.mp right
      exact .rel ahead

end

namespace GroupPlan

variable {g : GroupPlan} {row : ResultRow} {value : GroupValue}

/-- The buckets of a group, by their places. -/
def places (g : GroupPlan) : List GroupValue := (List.range g.titles.length).map .bucket

theorem places_sorted (g : GroupPlan) : g.places.Pairwise GroupValue.Precedes :=
  List.pairwise_map.mpr List.pairwise_lt_range

theorem choices_custom (custom : g.isCustom = true) :
    g.choices = (List.range g.titles.length).map some := by
  unfold isCustom at custom
  unfold choices titles
  cases form : g.form with
  | raw title =>
    rw [form] at custom
    cases custom
  | custom buckets => rw [List.length_map]

theorem offers_of_shows (custom : g.isCustom = true) (shown : g.shows row value = true) :
    g.offers value = true := by
  unfold isCustom at custom
  unfold shows at shown
  unfold offers
  cases form : g.form with
  | raw title =>
    rw [form] at custom
    cases custom
  | custom buckets =>
    rw [form] at shown
    cases value with
    | label text => cases shown
    | bucket i =>
      obtain ⟨b, here, -⟩ := (Option.any_eq_true _ _).mp shown
      exact decide_eq_true (List.getElem?_eq_some_iff.mp here).1

end GroupPlan

/-- The combination that a branch counts, where every group is custom. -/
def GroupValue.pinned (selection : Selection) : List GroupValue :=
  (selection.filterMap id).map .bucket

theorem pinned_branchSelections {groups : List GroupPlan}
    (custom : ∀ g ∈ groups, g.isCustom = true) :
    (branchSelections groups).map GroupValue.pinned
      = combinations (groups.map GroupPlan.places) := by
  unfold branchSelections
  induction groups with
  | nil => rfl
  | cons g rest ih =>
    obtain ⟨own, others⟩ := List.forall_mem_cons.mp custom
    simp only [List.map_cons, combinations, GroupPlan.choices_custom own, GroupPlan.places,
      List.flatMap_map, List.map_flatMap, ← ih others, List.map_map]
    rfl

namespace QueryPlan

variable {p : QueryPlan} {rows : List ResultRow}

theorem knownCombinations_custom (custom : ∀ g ∈ p.groups, g.isCustom = true) :
    p.knownCombinations = (branchSelections p.groups).map GroupValue.pinned := by
  unfold knownCombinations
  exact if_pos (List.all_eq_true.mpr custom)

theorem pinned_sorted (custom : ∀ g ∈ p.groups, g.isCustom = true) :
    ((branchSelections p.groups).map GroupValue.pinned).Pairwise fun k l =>
      GroupValue.combinationBefore k l = true := by
  rw [pinned_branchSelections custom]
  refine (combinations_sorted fun choices member => ?_).imp GroupValue.combinationBefore_iff.mpr
  obtain ⟨g, -, rfl⟩ := List.mem_map.mp member
  exact g.places_sorted

theorem offers_of_selects {row : ResultRow} {key : List GroupValue}
    (custom : ∀ g ∈ p.groups, g.isCustom = true) (selected : p.Selects row key) : p.Offers key := by
  unfold Selects at selected
  unfold Offers
  generalize p.groups = groups at custom selected ⊢
  induction selected with
  | nil => exact .nil
  | cons own _ ih =>
    obtain ⟨here, others⟩ := List.forall_mem_cons.mp custom
    exact .cons (GroupPlan.offers_of_shows here own) (ih others)

theorem keysOf_custom (custom : ∀ g ∈ p.groups, g.isCustom = true) (rows : List ResultRow) :
    p.keysOf rows = (branchSelections p.groups).map GroupValue.pinned := by
  unfold keysOf
  rw [← knownCombinations_custom custom]
  apply sortDistinct_append GroupValue.combination_strict
  · rw [knownCombinations_custom custom]
    exact pinned_sorted custom
  · intro key member
    obtain ⟨r, inside, among⟩ := List.mem_flatMap.mp member
    obtain ⟨row, -, dated⟩ := List.mem_filterMap.mp inside
    rw [(date_of_datedRow dated).2.2] at among
    exact mem_knownCombinations.mpr
      ⟨custom, offers_of_selects custom (mem_combinationsOf.mp among)⟩

theorem branchSelections_length (custom : ∀ g ∈ p.groups, g.isCustom = true) :
    (branchSelections p.groups).length = (p.groups.map (·.titles.length)).prod := by
  rw [branchSelections, combinations_length, List.map_map]
  refine congrArg List.prod (List.map_congr_left fun g member => ?_)
  rw [Function.comp_apply, GroupPlan.choices_custom (custom g member), List.length_map,
    List.length_range]

theorem seriesOver_length (p : QueryPlan) (rows : List ResultRow) (dates : List String)
    (keys : List (List GroupValue)) :
    (p.seriesOver rows dates keys).length = p.metrics.length * keys.length := by
  unfold seriesOver
  simp only [List.length_flatMap, List.length_map, List.map_const', List.sum_replicate_nat]

end QueryPlan

namespace Ledger

variable {p : QueryPlan} {rows : List ResultRow} {l : Ledger}

theorem holds_of_readAll (read : readAll p rows (.opening p) = .ok l) : l.Holds p rows := by
  have free : ∀ row ∈ rows, ¬Bars p row := by
    intro row member barred
    rw [readAll_barred _ ⟨row, member, barred⟩] at read
    cases read
  obtain ⟨last, done, holds⟩ := readAll_holds (opening_holds p) free
  rw [done] at read
  cases read
  exact holds

theorem series_of_posted {series : List Series} (made : p.postedSeries rows = .ok series) :
    series = p.shown rows := by
  unfold QueryPlan.postedSeries at made
  cases read : readAll p rows (.opening p) with
  | error fault =>
    rw [read] at made
    cases made
  | ok l =>
    rw [read] at made
    exact (Except.ok.inj made).symm.trans (holds_of_readAll read).series_eq

end Ledger

/-- Where every group is custom, or there is none, reading rows leaves the entries of a ledger at one
for each branch, in the order of the branches. So there is a series for each metric and branch, in this
order and by these names, whatever the rows hold; rows without a stray column are all accepted. -/
theorem series_fixed (p : QueryPlan) (custom : ∀ g ∈ p.groups, g.isCustom = true)
    (rows : List ResultRow) :
    (∀ l, Ledger.readAll p rows (.opening p) = .ok l →
      l.entries.map (·.key) = (branchSelections p.groups).map GroupValue.pinned) ∧
    ((branchSelections p.groups).map GroupValue.pinned).Nodup ∧
    (¬p.Strays rows → ∃ series, p.seriesOfRows rows = .ok series) ∧
    ∀ series, p.seriesOfRows rows = .ok series ∨ p.postedSeries rows = .ok series →
      series = p.seriesOver rows (p.datesOf rows) ((branchSelections p.groups).map GroupValue.pinned) ∧
      series.map (·.name) = (p.metrics.flatMap fun m => (branchSelections p.groups).map fun selection =>
        String.intercalate "-" (p.nameParts m (GroupValue.pinned selection))) ∧
      series.length = p.metrics.length * (p.groups.map (·.titles.length)).prod := by
  refine ⟨fun l read => ?_, ?_, fun known => ⟨_, QueryPlan.seriesOfRows_shown known⟩,
    fun series made => ?_⟩
  · rw [(Ledger.holds_of_readAll read).keys_eq, QueryPlan.keysOf_custom custom]
  · exact GroupValue.combination_strict.nodup (QueryPlan.pinned_sorted custom)
  · have shown : series = p.shown rows := by
      rcases made with made | made
      · exact QueryPlan.seriesOfRows_ok made
      · exact Ledger.series_of_posted made
    rw [QueryPlan.shown_eq, QueryPlan.keysOf_custom custom] at shown
    refine ⟨shown, ?_, ?_⟩
    · rw [shown, QueryPlan.seriesOver_names, QueryPlan.seriesParts, List.map_flatMap]
      simp only [List.map_map, Function.comp_def]
    · rw [shown, QueryPlan.seriesOver_length, List.length_map, QueryPlan.branchSelections_length custom]

def sampleChoices : InsightQuery :=
  { sampleRequest with
    groups := [⟨"city", .string, [⟨"eq", .text "Graz"⟩, ⟨"contains", .text "r"⟩]⟩,
      ⟨"os", .string, [⟨"eq", .text "b"⟩, ⟨"eq", .text "a"⟩]⟩] }

def sampleFlags : List ResultRow :=
  [[("date", .text "1970-01-01"), ("visit", .int 2), ("%city|equals|Graz", .int 1),
      ("%city|contains|r", .int 1), ("%os|equals|a", .int 1)],
    [("date", .text "1970-01-03"), ("visit", .int 5)]]

theorem series_fixed_sample : ∃ p series, sampleChoices.plan 10 = .ok p ∧
    (∀ g ∈ p.groups, g.isCustom = true) ∧ p.seriesOfRows sampleFlags = .ok series ∧
    p.seriesOfRows [] = .ok (p.seriesOver [] (p.datesOf [])
      ((branchSelections p.groups).map GroupValue.pinned)) ∧ series.length = 8 := by
  have held : ((sampleChoices.plan 10).toOption.any fun p => p.groups.all (·.isCustom) &&
      (p.seriesOfRows sampleFlags).toOption.isSome && (p.seriesOfRows []).toOption.isSome &&
      p.metrics.length * (p.groups.map (·.titles.length)).prod = 8) = true := by decide +kernel
  obtain ⟨p, planned, checks⟩ := (Option.any_eq_true _ _).mp held
  simp only [Bool.and_eq_true, List.all_eq_true, decide_eq_true_iff] at checks
  obtain ⟨⟨⟨custom, some⟩, none⟩, eight⟩ := checks
  obtain ⟨series, made⟩ := Option.isSome_iff_exists.mp some
  obtain ⟨empty, opened⟩ := Option.isSome_iff_exists.mp none
  have made := Checked.ok_of_toOption made
  have opened := Checked.ok_of_toOption opened
  obtain ⟨-, -, -, flagged⟩ := series_fixed p custom sampleFlags
  obtain ⟨-, -, -, fresh⟩ := series_fixed p custom []
  exact ⟨p, series, Checked.ok_of_toOption planned, custom, made,
    (fresh empty (.inl opened)).1 ▸ opened, (flagged series (.inl made)).2.2.trans eight⟩

end Analytics
