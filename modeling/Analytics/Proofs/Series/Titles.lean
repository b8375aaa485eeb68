import Analytics.Proofs.Json.Members
import Analytics.Proofs.Series.Groups

/-!
Titles of result columns. The label's column, those of metrics and those of groups have different
names, so that each cell of a result row is found under its own name.
-/

namespace Analytics

theorem firstRepeated_none {seen names : List String} (none : firstRepeated? seen names = none) :
    names.Nodup ∧ ∀ name ∈ names, name ∉ seen := by
  induction names generalizing seen with
  | nil => exact ⟨List.nodup_nil, fun name member => absurd member List.not_mem_nil⟩
  | cons first rest ih =>
    unfold firstRepeated? at none
    split at none
    · cases none
    rename_i fresh
    obtain ⟨once, apart⟩ := ih none
    refine ⟨List.nodup_cons.mpr ⟨?_, once⟩, List.forall_mem_cons.mpr ⟨?_, ?_⟩⟩
    · exact fun member => apart first member List.mem_cons_self
    · exact fun member => fresh (List.contains_iff_mem.mpr member)
    · exact fun name member before => apart name member (List.mem_cons_of_mem first before)

/-- Whether a name is marked as that of a group's column. -/
def isMarked (name : String) : Bool := name.toList.head? = some '%'

theorem Ident.new_unmarked {raw : String} {i : Ident} (named : Ident.new? raw = .ok i) :
    isMarked raw = false := by
  unfold Ident.new? at named
  split at named
  · cases named
  rename_i checked
  have plain := Ident.plain_of_checkComponent checked
  unfold isMarked
  cases chars : raw.toList with
  | nil => rfl
  | cons c rest =>
    rw [chars, List.all_cons, Bool.and_eq_true] at plain
    apply decide_eq_false
    rintro ⟨⟩
    exact absurd plain.1 (by decide)

theorem GroupKey.title_text {k : GroupKey} {i : Ident} (named : k.title = .ok i) :
    i.text = k.encode := by
  unfold GroupKey.title at named
  split at named
  · cases named
  split at named
  · cases named
  cases named
  rfl

theorem GroupKey.encode_marked (k : GroupKey) : isMarked k.encode = true := by
  cases k <;> simp [encode, isMarked, String.toList_append]

theorem RequestedMetric.title_ok {all : List RequestedMetric} {r : RequestedMetric}
    {m : PlannedMetric} (passed : r.plan all = .ok m) :
    m.title.text ≠ dateColumnName ∧ isMarked m.title.text = false := by
  unfold RequestedMetric.plan at passed
  dsimp only at passed
  split at passed
  · cases passed
  rename_i other
  split at passed
  · cases passed
  rename_i title named
  cases passed
  dsimp only
  rw [Ident.new_text named]
  refine ⟨?_, Ident.new_unmarked named⟩
  intro same
  rw [same] at other
  exact other (decide_eq_true rfl)

theorem GroupPlan.title_named {r : RequestedGroup} {g : GroupPlan} (passed : ofSpec r = .ok g)
    {title : Ident} (member : title ∈ g.titles) : ∃ k : GroupKey, k.title = .ok title := by
  obtain ⟨_, _, form⟩ := ofSpec_ok passed
  unfold GroupPlan.titles at member
  cases planned : g.form with
  | raw own =>
    rw [planned] at form member
    cases form with
    | raw _ named =>
      rcases List.mem_singleton.mp member with rfl
      exact ⟨_, named⟩
  | custom buckets =>
    rw [planned] at form member
    cases form with
    | custom _ paired =>
      obtain ⟨b, among, rfl⟩ := List.mem_map.mp member
      obtain ⟨_, _, made⟩ := matched_right paired among
      exact ⟨_, made.title⟩

theorem GroupPlan.title_ok {r : RequestedGroup} {g : GroupPlan} (passed : ofSpec r = .ok g)
    {title : Ident} (member : title ∈ g.titles) : isMarked title.text = true := by
  obtain ⟨k, named⟩ := title_named passed member
  rw [GroupKey.title_text named]
  exact GroupKey.encode_marked k

namespace QueryPlan

/-- The names of the result columns of a request. -/
def columnNames (p : QueryPlan) : List String :=
  dateColumnName :: (p.metrics.map (·.title.text) ++ p.groupTitles)

section

variable {q : InsightQuery} {limit : Nat} {p : QueryPlan}

theorem metric_unmarked (passes : q.Passes limit p) {name : String}
    (member : name ∈ p.metrics.map (·.title.text)) :
    name ≠ dateColumnName ∧ isMarked name = false := by
  obtain ⟨m, among, rfl⟩ := List.mem_map.mp member
  obtain ⟨r, _, planned⟩ := matched_right (RequestedMetric.planAll_ok passes.metrics) among
  exact RequestedMetric.title_ok planned

theorem group_marked (passes : q.Passes limit p) {name : String} (member : name ∈ p.groupTitles) :
    isMarked name = true := by
  obtain ⟨title, among, rfl⟩ := List.mem_map.mp member
  obtain ⟨g, chosen, inside⟩ := List.mem_flatMap.mp among
  obtain ⟨r, _, planned⟩ := matched_right (checkAll_ok passes.groups) chosen
  exact GroupPlan.title_ok planned inside

/-- Whether dates and group values can be read back from result rows, whatever names the metrics
share: no other column is named like the date's, and no later one like a group's. -/
structure IsTold (p : QueryPlan) : Prop where
  date : dateColumnName ∉ p.metrics.map (·.title.text) ++ p.groupTitles
  groups : p.groupTitles.Nodup

theorem isTold_of_nodup (once : p.columnNames.Nodup) : p.IsTold := by
  obtain ⟨date, others⟩ := List.nodup_cons.mp once
  exact ⟨date, (List.nodup_append'.mp others).2.1⟩

theorem isTold (passes : q.Passes limit p) : p.IsTold := by
  constructor
  · intro member
    rcases List.mem_append.mp member with early | late
    · exact (metric_unmarked passes early).1 rfl
    · exact absurd (group_marked passes late) (by decide)
  · have distinct := passes.distinct
    unfold checkDistinct at distinct
    split at distinct
    · cases distinct
    · rename_i none
      exact (firstRepeated_none none).1

theorem columnNames_nodup (passes : q.Passes limit p)
    (titles : (p.metrics.map (·.title.text)).Nodup) : p.columnNames.Nodup := by
  have told := isTold passes
  refine List.nodup_cons.mpr ⟨told.date, List.nodup_append'.mpr ⟨titles, told.groups, ?_⟩⟩
  intro name early late
  have marked := group_marked passes late
  rw [(metric_unmarked passes early).2] at marked
  cases marked

theorem columnNames_known (passes : q.Passes limit p) {name : String}
    (member : name ∈ p.columnNames) : p.isStray name = false := by
  rcases List.mem_cons.mp member with rfl | later
  · rfl
  rcases List.mem_append.mp later with early | late
  · have unmarked := (metric_unmarked passes early).2
    unfold isMarked at unmarked
    unfold isStray
    rw [unmarked, Bool.false_and]
  · unfold isStray
    rw [List.contains_iff_mem.mpr late, Bool.not_true, Bool.and_false]

theorem rows_known (passes : q.Passes limit p) {rows : List ResultRow}
    (named : ∀ row ∈ rows, ∀ cell ∈ row, cell.1 ∈ p.columnNames) :
    ((rows.filterMap p.datedRow?).any fun r => r.row.any fun cell => p.isStray cell.1) = false := by
  apply List.any_eq_false.mpr
  intro r dated
  obtain ⟨row, member, shown⟩ := List.mem_filterMap.mp dated
  obtain ⟨date, _, rfl⟩ := Option.map_eq_some_iff.mp shown
  rw [Bool.not_eq_true, List.any_eq_false]
  intro cell inside
  rw [Bool.not_eq_true]
  exact columnNames_known passes (named row member cell inside)

end

end QueryPlan

namespace Source.Makes

variable {s : Source} {p : QueryPlan} {selection : Selection} {b : Branch}

theorem metricNames (made : s.Makes p selection b) :
    b.metrics.map (·.title.text) = p.metrics.map (·.title.text) :=
  (matched_map ((checkAll_ok made.metrics).imp fun _ _ own =>
    congrArg Ident.text (metric_ok own).2.2.symm)).symm

theorem groupNames (made : s.Makes p selection b) :
    b.groups.map (·.title.text) = p.groupTitles := by
  have titles := congrArg (List.map Ident.text) (titles_groupColumns made.groups)
  rw [List.map_map] at titles
  exact titles

theorem columnNames (made : s.Makes p selection b) : b.columnNames = p.columnNames := by
  unfold Branch.columnNames QueryPlan.columnNames
  rw [made.metricNames, made.groupNames]

end Source.Makes

namespace Branch

variable {b : Branch}

/-- The columns of a result row, before they are sorted. -/
def members (b : Branch) (first : RowView Column) (views : List (RowView Column)) :
    List (String × Json) :=
  (dateColumnName, (b.label.eval first).toJson) ::
    (b.metrics.map (fun m => (m.title.text, Json.int (m.count.eval views))) ++
      b.groups.map fun c => (c.title.text, (c.expr.eval first).toJson))

theorem resultRow_members (b : Branch) (first : RowView Column) (views : List (RowView Column)) :
    b.resultRow first views = Json.sortMembers (b.members first views) := by
  unfold resultRow members
  dsimp only
  rw [List.map_cons, List.map_append, List.map_map, List.map_map]
  rfl

theorem members_names (b : Branch) (first : RowView Column) (views : List (RowView Column)) :
    (b.members first views).map (·.1) = b.columnNames := by
  unfold members columnNames
  rw [List.map_cons, List.map_append, List.map_map, List.map_map]
  rfl

section

variable {first : RowView Column} {views : List (RowView Column)}

theorem resultRow_names {cell : String × Json} (member : cell ∈ b.resultRow first views) :
    cell.1 ∈ b.columnNames := by
  rw [resultRow_members] at member
  rw [← members_names b first views]
  exact List.mem_map_of_mem (Json.mem_sortMembers member)

theorem resultRow_cell (once : b.columnNames.Nodup) {name : String} {value : Json}
    (member : (name, value) ∈ b.members first views) :
    ResultRow.cell (b.resultRow first views) name = value := by
  rw [← members_names b first views] at once
  unfold ResultRow.cell
  rw [resultRow_members, Json.lookup_sortMembers once member, Option.getD_some]

end

variable (first : RowView Column) (views : List (RowView Column))

theorem resultRow_metric (once : b.columnNames.Nodup) {m : MetricColumn} (member : m ∈ b.metrics) :
    ResultRow.cell (b.resultRow first views) m.title.text = Json.int (m.count.eval views) :=
  resultRow_cell once (List.mem_cons_of_mem _
    (List.mem_append_left _ (List.mem_map.mpr ⟨m, member, rfl⟩)))

section

variable {s : Source} {p : QueryPlan} {selection : Selection}

theorem resultRow_date (made : s.Makes p selection b) (told : p.IsTold) :
    ResultRow.cell (b.resultRow first views) dateColumnName = (b.label.eval first).toJson := by
  have alone : dateColumnName ∉ ((b.metrics.map fun m =>
      (m.title.text, Json.int (m.count.eval views))) ++
        b.groups.map fun c => (c.title.text, (c.expr.eval first).toJson)).map (·.1) := by
    rw [List.map_append, List.map_map, List.map_map]
    change _ ∉ b.metrics.map (·.title.text) ++ b.groups.map (·.title.text)
    rw [made.metricNames, made.groupNames]
    exact told.date
  unfold ResultRow.cell
  rw [resultRow_members, members, ← List.nil_append (_ :: _), Json.lookup_sortMembers_last alone,
    Option.getD_some]

theorem resultRow_shows (made : s.Makes p selection b) (told : p.IsTold) :
    (b.resultRow first views).Shows first b.groups := by
  intro c member
  have once := told.groups
  rw [← made.groupNames] at once
  obtain ⟨before, after, split⟩ := List.append_of_mem member
  have last : c.title.text ∉ (after.map fun c => (c.title.text, (c.expr.eval first).toJson)).map
      (·.1) := by
    rw [split, List.map_append, List.map_cons] at once
    rw [List.map_map]
    exact (List.nodup_cons.mp (List.nodup_append'.mp once).2.1).1
  unfold ResultRow.cell
  rw [resultRow_members, members, split, List.map_append, List.map_cons, ← List.append_assoc,
    ← List.cons_append, Json.lookup_sortMembers_last last, Option.getD_some]

end

end Branch

end Analytics
