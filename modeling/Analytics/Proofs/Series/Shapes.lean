import Analytics.Proofs.Group.Keys
import Analytics.Proofs.Series.Titles
import Analytics.Proofs.Sql.Placeholders
import Analytics.Proofs.Sql.Readings

/-!
Shapes of statements. A statement has one branch for each way to choose a bucket of every custom group;
its branches have the same columns, and each one groups rows by the label, by the columns of raw groups
and by the buckets that it counts. Main statement: this is so of every statement that is built, as its
text is read in either dialect, and rows with its columns are shaped into series.
-/

namespace Analytics

namespace GroupPlan

def Chooses (choice : Option Nat) (g : GroupPlan) : Prop :=
  match g.form with
  | .raw _ => choice = none
  | .custom buckets => ∃ i < buckets.length, choice = some i

variable {g : GroupPlan} {choice : Option Nat} {column : StoredColumn Column}
  {cs : List (GroupColumn Column)}

theorem mem_choices : choice ∈ g.choices ↔ Chooses choice g := by
  unfold Chooses
  cases form : g.form with
  | raw title => exact mem_choices_raw form
  | custom buckets => exact mem_choices_custom form

theorem choosable (filled : g.form ≠ .custom []) : ∃ choice, Chooses choice g := by
  unfold Chooses
  cases form : g.form with
  | raw title => exact ⟨none, rfl⟩
  | custom buckets =>
    have some : 0 < buckets.length := by
      rw [List.length_pos_iff]
      rintro rfl
      exact filled form
    exact ⟨_, 0, some, rfl⟩

/-- The columns that a branch has for a group, by what it chooses from it: the column that the group
reads, or the flag of the chosen bucket among zeros for the others. -/
inductive Projects (g : GroupPlan) (column : StoredColumn Column) :
    Option Nat → List (GroupColumn Column) → Prop
  | raw {title : Ident} (form : g.form = .raw title) :
    Projects g column none [⟨.value column.ref, title⟩]
  | custom {before behind : List Bucket} {b : Bucket} {p : Predicate Column}
    (form : g.form = .custom (before ++ b :: behind))
    (compiled : Filter.compile g.type b.operator b.value column = .ok p) :
    Projects g column (some before.length)
      (before.map GroupColumn.unpinned ++ ⟨.flag p, b.title⟩ :: behind.map GroupColumn.unpinned)

theorem projects (made : GroupColumn.ofPlan g column choice = .ok cs) (chosen : Chooses choice g) :
    g.Projects column choice cs := by
  unfold GroupColumn.ofPlan at made
  unfold Chooses at chosen
  cases form : g.form with
  | raw title =>
    simp only [form] at made chosen
    cases made
    exact chosen ▸ .raw form
  | custom buckets =>
    simp only [form] at made chosen
    obtain ⟨i, inside, here⟩ := chosen
    rw [← Nat.zero_add i] at here
    obtain ⟨before, b, behind, p, rfl, rfl, compiled, rfl⟩ :=
      GroupColumn.ofBuckets_pinned made here inside
    rw [here, Nat.zero_add]
    exact .custom form compiled

def pinnedTitle? (g : GroupPlan) (choice : Option Nat) : Option Ident :=
  match g.form, choice with
  | .raw title, _ => some title
  | .custom buckets, some i => (buckets[i]?).map (·.title)
  | .custom _, none => none

theorem chosen_title (chosen : Chooses choice g) :
    ∃ title, g.pinnedTitle? choice = some title ∧ g.titles[choice.getD 0]? = some title := by
  unfold Chooses at chosen
  unfold pinnedTitle? titles
  cases form : g.form with
  | raw title =>
    simp only [form] at chosen
    subst chosen
    exact ⟨title, rfl, rfl⟩
  | custom buckets =>
    simp only [form] at chosen
    obtain ⟨i, inside, rfl⟩ := chosen
    refine ⟨buckets[i].title, ?_, ?_⟩
    · simp [inside]
    · simp [inside]

end GroupPlan

open GroupPlan (Chooses)

theorem mem_branchSelections {groups : List GroupPlan} {selection : Selection} :
    selection ∈ branchSelections groups ↔ List.Forall₂ Chooses selection groups := by
  rw [branchSelections, mem_combinations, List.forall₂_map_right_iff]
  simp only [GroupPlan.mem_choices]

section

variable {groups : List GroupPlan} {selection : Selection}

theorem exists_selection (each : ∀ g ∈ groups, ∃ choice, Chooses choice g) :
    ∃ selection, List.Forall₂ Chooses selection groups := by
  induction groups with
  | nil => exact ⟨[], .nil⟩
  | cons g rest ih =>
    obtain ⟨first, later⟩ := List.forall_mem_cons.mp each
    obtain ⟨choice, chosen⟩ := first
    obtain ⟨others, matched⟩ := ih later
    exact ⟨choice :: others, .cons chosen matched⟩

theorem exists_pinned (chosen : List.Forall₂ Chooses selection groups) {j : Nat} {g : GroupPlan}
    {choice : Option Nat} (placed : groups[j]? = some g) (can : Chooses choice g) :
    ∃ pinned, List.Forall₂ Chooses pinned groups ∧ pinned[j]? = some choice := by
  induction chosen generalizing j with
  | nil => cases placed
  | @cons c g' others rest first later ih =>
    cases j with
    | zero =>
      cases placed
      exact ⟨choice :: others, .cons can later, rfl⟩
    | succ j =>
      obtain ⟨pinned, matched, here⟩ := ih placed
      exact ⟨c :: pinned, .cons first matched, here⟩

end

/-- The places of the columns that rows are grouped by, where the columns of the groups stand from a
place on: for each group the first of its columns, or the one of the chosen bucket. -/
def groupedPlaces (place : Nat) : List GroupPlan → Selection → List Nat
  | g :: rest, choice :: others =>
    (place + choice.getD 0) :: groupedPlaces (place + g.titles.length) rest others
  | _, _ => []

def pinnedTitles (groups : List GroupPlan) (selection : Selection) : List Ident :=
  (groups.zip selection).filterMap fun chosen => chosen.1.pinnedTitle? chosen.2

namespace QueryPlan

def groupedPlaces (p : QueryPlan) (selection : Selection) : List Nat :=
  1 :: Analytics.groupedPlaces (p.metrics.length + 2) p.groups selection

theorem columnNames_titles (p : QueryPlan) : p.columnNames
    = (dateTitle :: p.metrics.map (·.title) ++ p.groups.flatMap (·.titles)).map Ident.text := by
  simp only [columnNames, groupTitles, List.map_append, List.map_cons, List.map_map,
    List.cons_append]
  rfl

end QueryPlan

namespace Branch

theorem grouped_unpinned (place : Nat) (bs : List Bucket) (rest : List (GroupColumn Column)) :
    groupedPositions place (bs.map GroupColumn.unpinned ++ rest)
      = groupedPositions (place + bs.length) rest := by
  induction bs generalizing place with
  | nil => rfl
  | cons b bs ih =>
    have skipped : groupedPositions place ((b :: bs).map GroupColumn.unpinned ++ rest)
        = groupedPositions (place + 1) (bs.map GroupColumn.unpinned ++ rest) := rfl
    rw [skipped, ih, List.length_cons, Nat.add_assoc, Nat.add_comm 1]

end Branch

namespace GroupPlan

variable {g : GroupPlan} {choice : Option Nat} {column : StoredColumn Column}
  {cs : List (GroupColumn Column)}

theorem Projects.titles (shown : g.Projects column choice cs) : cs.map (·.title) = g.titles := by
  unfold GroupPlan.titles
  cases shown with
  | raw form => simp only [form, List.map_singleton]
  | custom form =>
    simp only [form, List.map_append, List.map_cons, List.map_map]
    rfl

theorem Projects.length (shown : g.Projects column choice cs) : cs.length = g.titles.length := by
  rw [← shown.titles, List.length_map]

theorem Projects.places (shown : g.Projects column choice cs) (place : Nat)
    (rest : List (GroupColumn Column)) : Branch.groupedPositions place (cs ++ rest)
      = (place + choice.getD 0) :: Branch.groupedPositions (place + cs.length) rest := by
  cases shown with
  | raw form => rfl
  | @custom before behind b p form compiled =>
    have flagged (n : Nat) (others : List (GroupColumn Column)) :
        Branch.groupedPositions n (⟨.flag p, b.title⟩ :: others)
          = n :: Branch.groupedPositions (n + 1) others := rfl
    rw [List.append_assoc, Branch.grouped_unpinned, List.cons_append, flagged,
      Branch.grouped_unpinned]
    simp only [Option.getD_some, List.length_append, List.length_cons, List.length_map]
    congr 2
    omega

theorem Projects.flagged {i : Nat} {buckets : List Bucket} {b : Bucket}
    (shown : g.Projects column (some i) cs) (form : g.form = .custom buckets)
    (here : buckets[i]? = some b) :
    ∃ flag, Filter.compile g.type b.operator b.value column = .ok flag ∧
      ⟨.flag flag, b.title⟩ ∈ cs := by
  cases shown with
  | @custom before behind b' flag own compiled =>
    rw [own] at form
    cases form
    rw [List.getElem?_append_right (Nat.le_refl _), Nat.sub_self, List.getElem?_cons_zero] at here
    cases here
    exact ⟨flag, compiled, List.mem_append_right _ List.mem_cons_self⟩

end GroupPlan

namespace Source

inductive Projects (s : Source) :
    Nat → List GroupPlan → Selection → List (GroupColumn Column) → Prop
  | nil {index : Nat} : Projects s index [] [] []
  | cons {index : Nat} {g : GroupPlan} {rest : List GroupPlan} {choice : Option Nat}
    {others : Selection} {column : StoredColumn Column} {columns more : List (GroupColumn Column)}
    (read : s.groupColumn index g = .ok column) (first : g.Projects column choice columns)
    (later : Projects s (index + 1) rest others more) :
    Projects s index (g :: rest) (choice :: others) (columns ++ more)

variable {s : Source} {index : Nat} {groups : List GroupPlan} {selection : Selection}
  {cs : List (GroupColumn Column)}

theorem projects (chosen : List.Forall₂ Chooses selection groups)
    (made : s.groupColumns index groups selection = .ok cs) :
    s.Projects index groups selection cs := by
  induction chosen generalizing index cs with
  | nil =>
    cases made
    exact .nil
  | cons first _ ih =>
    obtain ⟨column, columns, others, read, planned, later, rfl⟩ := groupColumns_cons made
    exact .cons read (GroupPlan.projects planned first) (ih later)

theorem Projects.places (shown : s.Projects index groups selection cs) (place : Nat) :
    Branch.groupedPositions place cs = groupedPlaces place groups selection := by
  induction shown generalizing place with
  | nil => rfl
  | cons _ first _ ih => rw [first.places, groupedPlaces, ih, first.length]

theorem Projects.pinned (shown : s.Projects index groups selection cs) {j : Nat} {g : GroupPlan}
    {choice : Option Nat} (placed : groups[j]? = some g) (chosen : selection[j]? = some choice) :
    ∃ column columns, s.groupColumn (index + j) g = .ok column ∧ g.Projects column choice columns ∧
      columns ⊆ cs := by
  induction shown generalizing j with
  | nil => cases placed
  | @cons index g' rest c others column columns more read first later ih =>
    cases j with
    | zero =>
      cases placed
      cases chosen
      exact ⟨column, columns, read, first, List.subset_append_left columns more⟩
    | succ j =>
      obtain ⟨column', columns', read', own, among⟩ := ih placed chosen
      rw [Nat.add_assoc, Nat.add_comm 1] at read'
      exact ⟨column', columns', read', own, List.subset_append_of_subset_right columns among⟩

end Source

theorem names_placed {groups : List GroupPlan} {selection : Selection}
    (chosen : List.Forall₂ Chooses selection groups) (ahead : List Ident) :
    (groupedPlaces (ahead.length + 1) groups selection).map
        (fun n => (ahead ++ groups.flatMap (·.titles))[n - 1]?)
      = (pinnedTitles groups selection).map some := by
  induction chosen generalizing ahead with
  | nil => rfl
  | @cons choice g others rest first later ih =>
    obtain ⟨title, named, placed⟩ := GroupPlan.chosen_title first
    have inside : choice.getD 0 < g.titles.length := (List.getElem?_eq_some_iff.mp placed).1
    have here : (ahead ++ (g.titles ++ rest.flatMap (·.titles)))[ahead.length + 1 + choice.getD 0 - 1]?
        = some title := by
      rw [Nat.add_right_comm, Nat.add_sub_cancel, List.getElem?_append_right (Nat.le_add_right _ _),
        Nat.add_sub_cancel_left, List.getElem?_append_left inside, placed]
    have tail := ih (ahead ++ g.titles)
    rw [List.length_append, Nat.add_right_comm, List.append_assoc] at tail
    have pinned : pinnedTitles (g :: rest) (choice :: others)
        = title :: pinnedTitles rest others := by
      simp only [pinnedTitles, List.zip_cons_cons, List.filterMap_cons, named]
    rw [groupedPlaces, pinned, List.flatMap_cons, List.map_cons, here, tail]
    rfl

/-- What the branch of a selection is like. -/
structure Branch.IsShaped (source : Source) (p : QueryPlan) (selection : Selection) (b : Branch) :
    Prop where
  names : b.columnNames = p.columnNames
  groups : source.Projects 0 p.groups selection b.groups
  places : b.groupPositions = p.groupedPlaces selection
  /-- The grouped columns are the label, the columns of raw groups and the chosen buckets. -/
  grouped : b.groupPositions.map (fun n => b.columnNames[n - 1]?)
    = some dateColumnName :: (pinnedTitles p.groups selection).map fun title => some title.text

/-- What the statement of a request is like. -/
structure SeriesStatement.IsShaped (source : Source) (p : QueryPlan) (s : SeriesStatement) : Prop
    where
  /-- There is one branch for each way to choose, and no way comes up twice. -/
  branches : List.Forall₂ (Branch.IsShaped source p) (branchSelections p.groups) s.branches
  once : (branchSelections p.groups).Nodup
  chosen : ∀ selection,
    selection ∈ branchSelections p.groups ↔ List.Forall₂ Chooses selection p.groups
  /-- Each bucket has its flag in some branch. -/
  flagged : ∀ {j : Nat} {g : GroupPlan} {buckets : List Bucket} {b : Bucket}, p.groups[j]? = some g →
    g.form = .custom buckets → b ∈ buckets → ∃ column flag, source.groupColumn j g = .ok column ∧
      Filter.compile g.type b.operator b.value column = .ok flag ∧
        ∃ branch ∈ s.branches, ⟨.flag flag, b.title⟩ ∈ branch.groups
  /-- The texts read so in both dialects. -/
  columns : ∀ d, Reading.columns (s.render d).sql
    = (branchSelections p.groups).map fun _ => p.columnNames
  grouped : ∀ d, Reading.grouped (s.render d).sql
    = (branchSelections p.groups).map p.groupedPlaces

section

variable {q : InsightQuery} {limit : Nat} {p : QueryPlan} {source : Source} {s : SeriesStatement}

theorem InsightQuery.Passes.filled (passes : q.Passes limit p) :
    ∀ g ∈ p.groups, g.form ≠ .custom [] := by
  intro g member empty
  obtain ⟨r, _, planned⟩ := matched_right (checkAll_ok passes.groups) member
  obtain ⟨_, _, form⟩ := GroupPlan.ofSpec_ok planned
  rw [empty] at form
  cases form with
  | custom some paired => exact some (List.forall₂_nil_right_iff.mp paired)

theorem InsightQuery.Passes.choosable (passes : q.Passes limit p) :
    ∀ g ∈ p.groups, ∃ choice, Chooses choice g :=
  fun g member => GroupPlan.choosable (passes.filled g member)

theorem Source.built_filled (passes : q.Passes limit p) (built : source.build p = .ok s) :
    s.branches ≠ [] := by
  obtain ⟨selection, chosen⟩ := exists_selection passes.choosable
  intro empty
  have matched := Source.built built
  rw [empty, List.forall₂_nil_right_iff] at matched
  exact List.not_mem_nil (matched ▸ mem_branchSelections.mpr chosen)

theorem Source.Makes.shaped {selection : Selection} {b : Branch} (made : source.Makes p selection b)
    (chosen : List.Forall₂ Chooses selection p.groups) : b.IsShaped source p selection := by
  have projected := Source.projects chosen made.groups
  have metrics : b.metrics.length = p.metrics.length := (checkAll_ok made.metrics).length_eq.symm
  have places : b.groupPositions = p.groupedPlaces selection := by
    rw [Branch.groupPositions, projected.places, metrics, QueryPlan.groupedPlaces]
  refine ⟨made.columnNames, projected, places, ?_⟩
  have placed := names_placed chosen (dateTitle :: p.metrics.map (·.title))
  rw [List.length_cons, List.length_map] at placed
  have named := congrArg (List.map (Option.map Ident.text)) placed
  rw [List.map_map, List.map_map] at named
  have each (n : Nat) : p.columnNames[n - 1]? = ((dateTitle :: p.metrics.map (·.title)
      ++ p.groups.flatMap (·.titles))[n - 1]?).map Ident.text := by
    rw [p.columnNames_titles, List.getElem?_map]
  rw [places, made.columnNames, QueryPlan.groupedPlaces, List.map_cons]
  simp only [each]
  exact congrArg (some dateColumnName :: ·) named

theorem Source.built_shaped (built : source.build p = .ok s) :
    List.Forall₂ (Branch.IsShaped source p) (branchSelections p.groups) s.branches := by
  have chosen : ∀ selection ∈ branchSelections p.groups, List.Forall₂ Chooses selection p.groups :=
    fun _ => mem_branchSelections.mp
  have both := (List.forall₂_and_left _ _).mpr ⟨chosen, Source.built built⟩
  exact both.imp fun _ _ made => made.2.shaped made.1

theorem Source.built_pinned (choosable : ∀ g ∈ p.groups, ∃ choice, Chooses choice g)
    (built : source.build p = .ok s) {j : Nat} {g : GroupPlan} {choice : Option Nat}
    (placed : p.groups[j]? = some g) (can : Chooses choice g) : ∃ column columns,
      source.groupColumn j g = .ok column ∧ g.Projects column choice columns ∧
        ∃ branch ∈ s.branches, columns ⊆ branch.groups := by
  obtain ⟨selection, chosen⟩ := exists_selection choosable
  obtain ⟨pinned, among, own⟩ := exists_pinned chosen placed can
  obtain ⟨branch, inside, shaped⟩ :=
    matched_right (Source.built_shaped built).flip (mem_branchSelections.mpr among)
  obtain ⟨column, columns, read, shown, within⟩ := shaped.groups.pinned placed own
  rw [Nat.zero_add] at read
  exact ⟨column, columns, read, shown, branch, inside, within⟩

theorem Source.flagged_of_choosable (choosable : ∀ g ∈ p.groups, ∃ choice, Chooses choice g)
    (built : source.build p = .ok s) {j : Nat} {g : GroupPlan} {buckets : List Bucket} {b : Bucket}
    (placed : p.groups[j]? = some g) (form : g.form = .custom buckets) (member : b ∈ buckets) :
    ∃ column flag, source.groupColumn j g = .ok column ∧
      Filter.compile g.type b.operator b.value column = .ok flag ∧
        ∃ branch ∈ s.branches, ⟨.flag flag, b.title⟩ ∈ branch.groups := by
  obtain ⟨i, here⟩ := List.mem_iff_getElem?.mp member
  have can : Chooses (some i) g := by
    rw [GroupPlan.Chooses, form]
    exact ⟨i, (List.getElem?_eq_some_iff.mp here).1, rfl⟩
  obtain ⟨column, columns, read, shown, branch, inside, within⟩ :=
    Source.built_pinned choosable built placed can
  obtain ⟨flag, compiled, flagged⟩ := shown.flagged form here
  exact ⟨column, flag, read, compiled, branch, inside, within flagged⟩

theorem Source.built_flagged (passes : q.Passes limit p) (built : source.build p = .ok s) {j : Nat}
    {g : GroupPlan} {buckets : List Bucket} {b : Bucket} (placed : p.groups[j]? = some g)
    (form : g.form = .custom buckets) (member : b ∈ buckets) :
    ∃ column flag, source.groupColumn j g = .ok column ∧
      Filter.compile g.type b.operator b.value column = .ok flag ∧
        ∃ branch ∈ s.branches, ⟨.flag flag, b.title⟩ ∈ branch.groups :=
  Source.flagged_of_choosable passes.choosable built placed form member

theorem InsightQuery.Passes.decoded (passes : q.Passes limit p) :
    ∀ name ∈ p.groupTitles, (GroupKey.decode name).isSome = true := by
  intro name member
  obtain ⟨title, among, rfl⟩ := List.mem_map.mp member
  obtain ⟨g, chosen, inside⟩ := List.mem_flatMap.mp among
  obtain ⟨r, _, planned⟩ := matched_right (checkAll_ok passes.groups) chosen
  obtain ⟨k, named⟩ := GroupPlan.title_named planned inside
  rw [GroupKey.decode_title named]
  rfl

/-- Every statement that is built for a request is shaped by its plan; the titles of its group columns
are read as keys, and rows that have no columns but its own are shaped into series. -/
theorem statement_shaped (planned : q.plan limit = .ok p) (built : source.build p = .ok s) :
    s.IsShaped source p ∧ (∀ name ∈ p.groupTitles, (GroupKey.decode name).isSome = true) ∧
      ∀ rows : List ResultRow, (∀ row ∈ rows, ∀ cell ∈ row, cell.1 ∈ p.columnNames) →
        ∃ series, p.seriesOfRows rows = .ok series := by
  have passes := InsightQuery.passes planned
  have shaped := Source.built_shaped built
  have filled := Source.built_filled passes built
  refine ⟨?_, passes.decoded, ?_⟩
  · constructor
    · exact shaped
    · exact branchSelections_nodup p.groups
    · exact fun _ => mem_branchSelections
    · exact fun placed form member => Source.built_flagged passes built placed form member
    · intro d
      rw [SeriesStatement.columns_read filled (Source.built_sound planned built d)]
      exact (matched_map (shaped.imp fun _ _ own => own.names.symm)).symm
    · intro d
      rw [SeriesStatement.grouped_read filled (Source.built_sound planned built d)]
      exact (matched_map (shaped.imp fun _ _ own => own.places.symm)).symm
  · intro rows named
    have known := QueryPlan.rows_known passes named
    unfold QueryPlan.seriesOfRows
    dsimp only
    rw [known, if_neg Bool.false_ne_true]
    exact ⟨_, rfl⟩

end

theorem statement_shaped_sample : ∃ p s, sampleRequest.plan 10 = .ok p ∧
    (Resolved.internal.source p).build p = .ok s ∧ s.IsShaped (Resolved.internal.source p) p ∧
      Reading.grouped (s.render .postgres).sql = [[1, 4, 5], [1, 4, 6]] ∧
        ∃ series, p.seriesOfRows [[("date", .text "1970-01-01"), ("visit", .int 2)]] = .ok series := by
  obtain ⟨p, s, planned, built⟩ := sampleRequest_builds
  have read : ((sampleRequest.plan 10).toOption.all fun p =>
      (branchSelections p.groups).map p.groupedPlaces = [[1, 4, 5], [1, 4, 6]] &&
        p.columnNames.contains "visit") = true := by decide +kernel
  rw [planned] at read
  obtain ⟨places, visit⟩ := (Bool.and_eq_true _ _).mp read
  obtain ⟨shaped, _, known⟩ := statement_shaped planned built
  refine ⟨p, s, planned, built, shaped,
    (shaped.grouped .postgres).trans (of_decide_eq_true places), known _ ?_⟩
  simp only [List.forall_mem_singleton, List.forall_mem_cons]
  exact ⟨List.mem_cons_self, List.contains_iff_mem.mp visit⟩

end Analytics
