import Analytics.Proofs.Series.Values

/-!
Points of series. A point stands at a date and a combination of group values, and sums a metric over the
result rows that have the date and select the combination. A row selects a combination value by value:
a raw group's value is the label of its cell, a custom group's any bucket whose flag is set.
-/

namespace Analytics

namespace ResultRow

def date? (row : ResultRow) : Option String := ResultValue.label? (cell row dateColumnName)

end ResultRow

namespace GroupPlan

def cellLabel (row : ResultRow) (title : Ident) : String :=
  (ResultValue.label? (ResultRow.cell row title.text)).getD ResultValue.nullLabel

/-- Whether a row has a value of a group. -/
def shows (g : GroupPlan) (row : ResultRow) (value : GroupValue) : Bool :=
  match g.form, value with
  | .raw title, .label text => text = cellLabel row title
  | .custom buckets, .bucket i =>
    buckets[i]?.any fun b => ResultValue.isSet (ResultRow.cell row b.title.text)
  | _, _ => false

def offers (g : GroupPlan) (value : GroupValue) : Bool :=
  match g.form, value with
  | .custom buckets, .bucket i => i < buckets.length
  | _, _ => false

variable {row : ResultRow} {value : GroupValue} {g : GroupPlan}

theorem mem_flagged {buckets : List Bucket} {position : Nat} : value ∈ flagged row position buckets ↔
    ∃ i, value = .bucket (position + i) ∧
      (buckets[i]?.any fun b => ResultValue.isSet (ResultRow.cell row b.title.text)) = true := by
  induction buckets generalizing position with
  | nil => simp [flagged]
  | cons b rest ih =>
    have first : value ∈ flagged row position (b :: rest) ↔
        (value = .bucket position ∧ ResultValue.isSet (ResultRow.cell row b.title.text) = true) ∨
          value ∈ flagged row (position + 1) rest := by
      rw [flagged]
      split
      · rename_i set
        simp [set]
      · rename_i unset
        simp [unset]
    rw [first, ih]
    constructor
    · rintro (⟨rfl, set⟩ | ⟨i, rfl, set⟩)
      · exact ⟨0, rfl, set⟩
      · exact ⟨i + 1, by rw [Nat.add_assoc, Nat.add_comm 1], set⟩
    · rintro ⟨i, rfl, set⟩
      cases i with
      | zero => exact .inl ⟨rfl, set⟩
      | succ i => exact .inr ⟨i, by rw [Nat.add_assoc, Nat.add_comm 1], set⟩

theorem mem_valuesOf_iff : value ∈ g.valuesOf row ↔ g.shows row value = true := by
  unfold valuesOf shows
  cases form : g.form with
  | raw title =>
    cases value with
    | bucket i => simp
    | label text =>
      rw [List.mem_singleton, GroupValue.label.injEq]
      exact decide_eq_true_iff.symm
  | custom buckets =>
    dsimp only
    rw [mem_flagged]
    cases value with
    | bucket i => simp
    | label text => simp

theorem flagged_nodup (row : ResultRow) (position : Nat) (buckets : List Bucket) :
    (flagged row position buckets).Nodup := by
  induction buckets generalizing position with
  | nil => exact List.nodup_nil
  | cons b rest ih =>
    rw [flagged]
    split
    · refine List.nodup_cons.mpr ⟨fun again => ?_, ih (position + 1)⟩
      obtain ⟨i, same, _⟩ := mem_flagged.mp again
      injection same with place
      omega
    · exact ih (position + 1)

theorem valuesOf_nodup (g : GroupPlan) (row : ResultRow) : (g.valuesOf row).Nodup := by
  unfold valuesOf
  split
  · exact List.nodup_singleton _
  · exact flagged_nodup row 0 _

end GroupPlan

namespace QueryPlan

variable {p : QueryPlan} {row : ResultRow} {rows : List ResultRow} {m : PlannedMetric}
  {key : List GroupValue} {date : String}

def Selects (p : QueryPlan) (row : ResultRow) (key : List GroupValue) : Prop :=
  List.Forall₂ (fun value g => GroupPlan.shows g row value = true) key p.groups

instance (p : QueryPlan) (row : ResultRow) (key : List GroupValue) : Decidable (p.Selects row key) :=
  inferInstanceAs (Decidable (List.Forall₂ _ key p.groups))

def Offers (p : QueryPlan) (key : List GroupValue) : Prop :=
  List.Forall₂ (fun value g => GroupPlan.offers g value = true) key p.groups

/-- The rows that a point sums. -/
def rowsAt (p : QueryPlan) (rows : List ResultRow) (key : List GroupValue) (date : String) :
    List ResultRow :=
  rows.filter fun row => ResultRow.date? row = some date ∧ p.Selects row key

def numbersAt (p : QueryPlan) (rows : List ResultRow) (m : PlannedMetric) (key : List GroupValue)
    (date : String) : List Binary64 :=
  (p.rowsAt rows key date).map fun row => ResultValue.number (ResultRow.cell row m.title.text)

/-- The texts that the name of a series joins: the metric's, and one for each group. -/
def nameParts (p : QueryPlan) (m : PlannedMetric) (key : List GroupValue) : List String :=
  m.title.text :: List.zipWith GroupPlan.valueLabel p.groups key

theorem mem_combinationsOf : key ∈ combinations (p.groups.map (GroupPlan.valuesOf row)) ↔
    p.Selects row key := by
  simp only [mem_combinations, List.forall₂_map_right_iff, GroupPlan.mem_valuesOf_iff]
  exact Iff.rfl

theorem combinationsOf_nodup (p : QueryPlan) (row : ResultRow) :
    (combinations (p.groups.map (GroupPlan.valuesOf row))).Nodup := by
  apply combinations_nodup
  intro values member
  obtain ⟨g, _, rfl⟩ := List.mem_map.mp member
  exact g.valuesOf_nodup row

theorem exists_pinned_iff {groups : List GroupPlan} (custom : ∀ g ∈ groups, g.isCustom = true) :
    (∃ selection ∈ branchSelections groups, (selection.filterMap id).map .bucket = key) ↔
      List.Forall₂ (fun value g => GroupPlan.offers g value = true) key groups := by
  unfold branchSelections
  induction groups generalizing key with
  | nil =>
    simp only [List.map_nil, combinations, List.mem_singleton, exists_eq_left, List.filterMap_nil,
      List.forall₂_nil_right_iff]
    exact eq_comm
  | cons g rest ih =>
    obtain ⟨own, others⟩ := List.forall_mem_cons.mp custom
    have choice (value : GroupValue) : GroupPlan.offers g value = true ↔
        ∃ i, some i ∈ g.choices ∧ value = .bucket i := by
      unfold GroupPlan.isCustom at own
      unfold GroupPlan.offers GroupPlan.choices
      cases form : g.form with
      | raw title => rw [form] at own; cases own
      | custom buckets => cases value <;> simp
    -- A custom group offers no choice but its buckets.
    have pinned (choice : Option Nat) (member : choice ∈ g.choices) : ∃ i, choice = some i := by
      unfold GroupPlan.isCustom at own
      unfold GroupPlan.choices at member
      cases form : g.form with
      | raw title => rw [form] at own; cases own
      | custom buckets =>
        rw [form] at member
        obtain ⟨i, _, same⟩ := List.mem_map.mp member
        exact ⟨i, same.symm⟩
    rw [List.forall₂_cons_right_iff]
    simp only [List.map_cons, combinations, List.mem_flatMap, List.mem_map]
    constructor
    · rintro ⟨_, ⟨first, among, selection, inside, rfl⟩, rfl⟩
      obtain ⟨i, rfl⟩ := pinned first among
      exact ⟨.bucket i, _, (choice _).mpr ⟨i, among, rfl⟩,
        (ih others).mp ⟨selection, inside, rfl⟩, rfl⟩
    · rintro ⟨value, tail, offered, matched, rfl⟩
      obtain ⟨i, among, rfl⟩ := (choice value).mp offered
      obtain ⟨selection, inside, rfl⟩ := (ih others).mpr matched
      exact ⟨some i :: selection, ⟨some i, among, selection, inside, rfl⟩, rfl⟩

theorem mem_knownCombinations : key ∈ p.knownCombinations ↔
    (∀ g ∈ p.groups, g.isCustom = true) ∧ p.Offers key := by
  unfold knownCombinations Offers
  split
  · rename_i all
    have custom := List.all_eq_true.mp all
    rw [List.mem_map, exists_pinned_iff custom, and_iff_right custom]
  · rename_i some
    exact iff_of_false List.not_mem_nil fun known => some (List.all_eq_true.mpr known.1)

theorem date_of_datedRow {r : DatedRow} (dated : p.datedRow? row = some r) :
    ResultRow.date? row = some r.date ∧ r.row = row ∧
      r.combinations = combinations (p.groups.map (GroupPlan.valuesOf row)) := by
  obtain ⟨date, labelled, rfl⟩ := Option.map_eq_some_iff.mp dated
  exact ⟨labelled, rfl, rfl⟩

theorem datedRow_of_date (dated : ResultRow.date? row = some date) : p.datedRow? row
    = some ⟨date, row, combinations (p.groups.map (GroupPlan.valuesOf row))⟩ :=
  Option.map_eq_some_iff.mpr ⟨date, dated, rfl⟩

theorem numbersAt_eq (p : QueryPlan) (rows : List ResultRow) (m : PlannedMetric)
    (key : List GroupValue) (date : String) : p.numbersAt rows m key date =
      (rows.filterMap (p.placed? date key)).map fun r =>
        ResultValue.number (ResultRow.cell r.row m.title.text) := by
  unfold numbersAt rowsAt
  induction rows with
  | nil => rfl
  | cons row rest ih =>
    rw [List.filter_cons, List.filterMap_cons]
    by_cases counted : ResultRow.date? row = some date ∧ p.Selects row key
    · have placed := placed_iff.mpr ⟨datedRow_of_date counted.1, mem_combinationsOf.mpr counted.2, rfl⟩
      rw [placed, decide_eq_true counted, if_pos rfl, List.map_cons, List.map_cons, ih]
    · have none : p.placed? date key row = none := by
        rw [Option.eq_none_iff_forall_ne_some]
        intro r placed
        obtain ⟨dated, inside, rfl⟩ := placed_iff.mp placed
        obtain ⟨labelled, _, all⟩ := date_of_datedRow dated
        rw [all] at inside
        exact counted ⟨labelled, mem_combinationsOf.mp inside⟩
      rw [none, decide_eq_false counted, if_neg Bool.false_ne_true, ih]

theorem value_eq (p : QueryPlan) (rows : List ResultRow) (m : PlannedMetric) (key : List GroupValue)
    (date : String) : p.value rows m key date =
      (p.numbersAt rows m key date).foldl Binary64.add .zero := by
  rw [value_placed, numbersAt_eq]

theorem mem_datesOf : date ∈ p.datesOf rows ↔
    date ∈ p.buckets ∨ ∃ row ∈ rows, ResultRow.date? row = some date := by
  unfold datesOf
  rw [mem_sortDistinct, List.mem_append]
  apply or_congr_right
  constructor
  · intro member
    obtain ⟨r, inside, rfl⟩ := List.mem_map.mp member
    obtain ⟨row, among, dated⟩ := List.mem_filterMap.mp inside
    exact ⟨row, among, (date_of_datedRow dated).1⟩
  · rintro ⟨row, among, labelled⟩
    exact List.mem_map.mpr ⟨_, List.mem_filterMap.mpr ⟨row, among, datedRow_of_date labelled⟩, rfl⟩

theorem mem_keysOf : key ∈ p.keysOf rows ↔
    ((∀ g ∈ p.groups, g.isCustom = true) ∧ p.Offers key) ∨
      ∃ row ∈ rows, (ResultRow.date? row).isSome = true ∧ p.Selects row key := by
  unfold keysOf
  rw [mem_sortDistinct, List.mem_append, mem_knownCombinations]
  apply or_congr_right
  constructor
  · intro member
    obtain ⟨r, inside, chosen⟩ := List.mem_flatMap.mp member
    obtain ⟨row, among, dated⟩ := List.mem_filterMap.mp inside
    obtain ⟨labelled, _, all⟩ := date_of_datedRow dated
    rw [all] at chosen
    exact ⟨row, among, Option.isSome_of_eq_some labelled, mem_combinationsOf.mp chosen⟩
  · rintro ⟨row, among, some, selected⟩
    obtain ⟨date, labelled⟩ := Option.isSome_iff_exists.mp some
    exact List.mem_flatMap.mpr ⟨_, List.mem_filterMap.mpr ⟨row, among, datedRow_of_date labelled⟩,
      mem_combinationsOf.mpr selected⟩

/-- That a dated row has a column that is marked as a group and is none of the request's. -/
def Strays (p : QueryPlan) (rows : List ResultRow) : Prop :=
  ∃ row ∈ rows, (ResultRow.date? row).isSome = true ∧
    ∃ column ∈ row.map (·.1), isMarked column = true ∧ column ∉ p.groupTitles

theorem isStray_iff {column : String} : p.isStray column = true ↔
    isMarked column = true ∧ column ∉ p.groupTitles := by
  unfold isStray isMarked
  rw [Bool.and_eq_true, Bool.not_eq_true', List.contains_eq_mem, decide_eq_false_iff_not]

theorem seriesOfRows_strays (strays : p.Strays rows) : p.seriesOfRows rows = .error .internal := by
  obtain ⟨row, among, some, column, named, stray⟩ := strays
  obtain ⟨date, labelled⟩ := Option.isSome_iff_exists.mp some
  obtain ⟨cell, inside, rfl⟩ := List.mem_map.mp named
  unfold seriesOfRows
  refine if_pos (List.any_eq_true.mpr ⟨_, List.mem_filterMap.mpr
    ⟨row, among, datedRow_of_date labelled⟩, List.any_eq_true.mpr ⟨cell, inside, ?_⟩⟩)
  exact isStray_iff.mpr stray

theorem seriesOfRows_shown (known : ¬p.Strays rows) : p.seriesOfRows rows = .ok (p.shown rows) := by
  unfold seriesOfRows
  refine if_neg fun some => known ?_
  obtain ⟨r, inside, any⟩ := List.any_eq_true.mp some
  obtain ⟨row, among, dated⟩ := List.mem_filterMap.mp inside
  obtain ⟨labelled, same, _⟩ := date_of_datedRow dated
  obtain ⟨cell, member, stray⟩ := List.any_eq_true.mp any
  rw [same] at member
  exact ⟨row, among, Option.isSome_of_eq_some labelled, cell.1, List.mem_map_of_mem member,
    isStray_iff.mp stray⟩

theorem foldl_intercalate (first : String) (rest : List String) :
    rest.foldl (fun name label => name ++ "-" ++ label) first
      = String.intercalate "-" (first :: rest) := by
  induction rest generalizing first with
  | nil => exact String.intercalate_singleton.symm
  | cons label rest ih =>
    rw [List.foldl_cons, ih, String.intercalate_cons_cons]
    cases rest with
    | nil => rw [String.intercalate_singleton, String.intercalate_singleton]
    | cons next rest =>
      rw [String.intercalate_cons_cons, String.intercalate_cons_cons]
      simp only [String.append_assoc]

theorem seriesName_eq (p : QueryPlan) (m : PlannedMetric) (key : List GroupValue) :
    p.seriesName m key = String.intercalate "-" (p.nameParts m key) := by
  unfold seriesName nameParts
  rw [foldl_intercalate, List.map_zip_eq_zipWith]
  rfl

end QueryPlan

end Analytics
