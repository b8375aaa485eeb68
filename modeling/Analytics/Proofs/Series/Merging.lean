import Analytics.Proofs.Number.Proper
import Analytics.Proofs.Series.Determined

/-!
Rows that are summed together where every group is raw. A row then counts at one point: its date, and the
labels of its groups' cells. Main statement: rows with different cells are kept apart exactly where the
labels tell their cells, and each row is then alone at its point. A null cell has the label of a text
that reads so, and its row is merged with that text's.
-/

namespace Analytics

namespace ResultValue

def label (v : Json) : String := (label? v).getD nullLabel

def isTold : Json → Bool
  | .null => true
  | .text s => s ≠ nullLabel
  | _ => false

theorem label_inj {v w : Json} (told : isTold v = true) (told' : isTold w = true)
    (same : label v = label w) : v = w := by
  cases v with
  | null =>
    cases w with
    | null => rfl
    | text t => exact absurd same.symm (of_decide_eq_true told')
    | _ => cases told'
  | text s =>
    cases w with
    | null => exact absurd same (of_decide_eq_true told)
    | text t => exact congrArg Json.text same
    | _ => cases told'
  | _ => cases told

def IsProper : Json → Prop
  | .float x => x.IsProper
  | _ => True

theorem number_proper {v : Json} (proper : IsProper v) : (number v).IsProper := by
  have none : Binary64.zero.IsProper := .inr ⟨by decide, rfl⟩
  cases v with
  | int i => exact Binary64.ofInt_proper i
  | float x => exact proper
  | text s =>
    change ((Binary64.ofText? s).getD .zero).IsProper
    cases read : Binary64.ofText? s with
    | none => exact none
    | some x => exact Binary64.ofText_proper read
  | _ => exact none

theorem label_of_some {v : Json} {text : String} (labelled : label? v = some text) : label v = text := by
  rw [label, labelled, Option.getD_some]

end ResultValue

def GroupPlan.rawCell (row : ResultRow) (g : GroupPlan) : Json :=
  match g.form with
  | .raw title => ResultRow.cell row title.text
  | .custom _ => .null

namespace QueryPlan

variable {p : QueryPlan} {row row' : ResultRow} {rows : List ResultRow} {key : List GroupValue}
  {date : String}

def pointCells (p : QueryPlan) (row : ResultRow) : List Json :=
  ResultRow.cell row dateColumnName :: p.groups.map (GroupPlan.rawCell row)

/-- The point that a row counts at where every group is raw: a combination and a date. -/
def place (p : QueryPlan) (row : ResultRow) : List GroupValue × String :=
  (p.groups.map fun g => .label (ResultValue.label (GroupPlan.rawCell row g)),
    ResultValue.label (ResultRow.cell row dateColumnName))

def LabelsTell (p : QueryPlan) (rows : List ResultRow) : Prop :=
  ∀ row ∈ rows, ∀ row' ∈ rows, p.place row = p.place row' → p.pointCells row = p.pointCells row'

theorem labelsTell_of_told
    (told : ∀ row ∈ rows, ∀ v ∈ p.pointCells row, ResultValue.isTold v = true) :
    p.LabelsTell rows := by
  intro row member row' member' same
  obtain ⟨labels, dates⟩ := Prod.mk.inj same
  obtain ⟨date, groups⟩ := List.forall_mem_cons.mp (told row member)
  obtain ⟨date', groups'⟩ := List.forall_mem_cons.mp (told row' member')
  unfold pointCells
  rw [ResultValue.label_inj date date' dates]
  congr 1
  apply List.map_congr_left
  intro g among
  have label := List.map_inj_left.mp labels g among
  exact ResultValue.label_inj (groups _ (List.mem_map_of_mem among))
    (groups' _ (List.mem_map_of_mem among)) (GroupValue.label.inj label)

theorem selects_raw (raw : ∀ g ∈ p.groups, g.isCustom = false) :
    p.Selects row key ↔ key = (p.place row).1 := by
  unfold Selects place
  dsimp only
  generalize p.groups = groups at raw
  induction groups generalizing key with
  | nil => exact List.forall₂_nil_right_iff
  | cons g rest ih =>
    obtain ⟨own, others⟩ := List.forall_mem_cons.mp raw
    have shown (value : GroupValue) : GroupPlan.shows g row value = true ↔
        value = .label (ResultValue.label (GroupPlan.rawCell row g)) := by
      unfold GroupPlan.isCustom at own
      unfold GroupPlan.shows GroupPlan.rawCell
      cases form : g.form with
      | custom buckets => rw [form] at own; cases own
      | raw title =>
        cases value with
        | bucket i => simp
        | label text =>
          rw [GroupValue.label.injEq]
          exact decide_eq_true_iff
    rw [List.forall₂_cons_right_iff, List.map_cons]
    constructor
    · rintro ⟨value, tail, first, matched, rfl⟩
      rw [(shown value).mp first, (ih others).mp matched]
    · rintro rfl
      exact ⟨_, _, (shown _).mpr rfl, (ih others).mpr rfl, rfl⟩

theorem mem_rowsAt (raw : ∀ g ∈ p.groups, g.isCustom = false)
    (dated : (ResultRow.date? row).isSome = true) :
    row ∈ p.rowsAt rows key date ↔ row ∈ rows ∧ p.place row = (key, date) := by
  obtain ⟨own, labelled⟩ := Option.isSome_iff_exists.mp dated
  have label : (p.place row).2 = own := ResultValue.label_of_some labelled
  unfold rowsAt
  rw [List.mem_filter, decide_eq_true_iff, selects_raw raw, labelled, Option.some_inj, Prod.ext_iff,
    label]
  exact and_congr_right fun _ => ⟨fun ⟨dates, keys⟩ => ⟨keys.symm, dates⟩,
    fun ⟨keys, dates⟩ => ⟨dates, keys.symm⟩⟩

theorem rowsAt_single (raw : ∀ g ∈ p.groups, g.isCustom = false)
    (dated : ∀ row ∈ rows, (ResultRow.date? row).isSome = true) :
    (∀ key date, (p.rowsAt rows key date).length ≤ 1) ↔ (rows.map p.place).Nodup := by
  -- The rows of a point are as many as have it for their place.
  have counted (key : List GroupValue) (date : String) :
      (p.rowsAt rows key date).length = (rows.map p.place).count (key, date) := by
    rw [List.count_eq_countP, List.countP_map, List.countP_eq_length_filter]
    unfold rowsAt
    congr 1
    apply List.filter_congr
    intro row member
    have own : row ∈ p.rowsAt rows key date ↔ row ∈ rows ∧ p.place row = (key, date) :=
      mem_rowsAt raw (dated row member)
    unfold rowsAt at own
    rw [List.mem_filter, and_congr_right_iff] at own
    rw [Bool.eq_iff_iff, own member]
    exact beq_iff_eq.symm
  rw [List.nodup_iff_count_le_one, Prod.forall]
  simp only [counted]

theorem place_nodup_iff (apart : (rows.map p.pointCells).Nodup) :
    (rows.map p.place).Nodup ↔ p.LabelsTell rows := by
  constructor
  · intro once row member row' member' same
    rw [List.inj_on_of_nodup_map once member member' same]
  · intro tell
    apply List.Nodup.map_on _ (apart.of_map p.pointCells)
    intro row member row' member' same
    exact List.inj_on_of_nodup_map apart member member' (tell row member row' member' same)

/-- That a row counts at one point of the series, alone, and that each metric shows its number there. -/
structure CountsOnce (p : QueryPlan) (rows : List ResultRow) (dates : List String)
    (keys : List (List GroupValue)) (row : ResultRow) : Prop where
  once : ∃! point : List GroupValue × String,
    point.1 ∈ keys ∧ point.2 ∈ dates ∧ row ∈ p.rowsAt rows point.1 point.2
  alone : ∀ key date, row ∈ p.rowsAt rows key date → p.rowsAt rows key date = [row]
  /-- A sum from zero shows the negative zero as zero. -/
  number : ∀ key date, row ∈ p.rowsAt rows key date → ∀ m : PlannedMetric,
    let cell := ResultRow.cell row m.title.text
    ResultValue.IsProper cell → (p.numbersAt rows m key date).foldl Binary64.add .zero =
      if ResultValue.number cell = Binary64.zero.neg then .zero else ResultValue.number cell

theorem CountsOnce.count {dates : List String} {keys : List (List GroupValue)} {m : PlannedMetric}
    {i : Int} (once : p.CountsOnce rows dates keys row) (counted : row ∈ p.rowsAt rows key date)
    (whole : ResultRow.cell row m.title.text = .int i) :
    (p.numbersAt rows m key date).foldl Binary64.add .zero = .ofInt i := by
  have number := once.number key date counted m
  rw [whole] at number
  exact (number trivial).trans (if_neg (Binary64.ofInt_signed i))

theorem countsOnce {dates : List String} {keys : List (List GroupValue)}
    (raw : ∀ g ∈ p.groups, g.isCustom = false)
    (dated : ∀ row ∈ rows, (ResultRow.date? row).isSome = true) (spans : p.Spans rows dates keys)
    (single : ∀ key date, (p.rowsAt rows key date).length ≤ 1) (member : row ∈ rows) :
    p.CountsOnce rows dates keys row := by
  have own := dated row member
  have alone (key : List GroupValue) (date : String) (counted : row ∈ p.rowsAt rows key date) :
      p.rowsAt rows key date = [row] := by
    obtain ⟨only, rest⟩ := List.length_eq_one_iff.mp
      ((single key date).antisymm (List.length_pos_of_mem counted))
    rw [rest] at counted
    rw [rest, List.mem_singleton.mp counted]
  constructor
  · have counted : row ∈ p.rowsAt rows (p.place row).1 (p.place row).2 :=
      (mem_rowsAt raw own).mpr ⟨member, rfl⟩
    refine ⟨p.place row, ⟨?_, ?_, counted⟩, ?_⟩
    · exact (spans.keys _).mpr (.inr ⟨row, member, own, (selects_raw raw).mpr rfl⟩)
    · obtain ⟨date, labelled⟩ := Option.isSome_iff_exists.mp own
      refine (spans.dates _).mpr (.inr ⟨row, member, labelled.trans ?_⟩)
      exact congrArg some (ResultValue.label_of_some labelled).symm
    · rintro ⟨key, date⟩ ⟨_, _, other⟩
      exact ((mem_rowsAt raw own).mp other).2.symm
  · exact alone
  · intro key date counted m cell proper
    unfold numbersAt
    rw [alone key date counted]
    exact Binary64.zero_add (ResultValue.number_proper proper)

end QueryPlan

/-- Rows with different cells are not summed together exactly if their labels tell their cells; each of
them then counts once. -/
theorem rows_apart {p : QueryPlan} {rows : List ResultRow} {series : List Series}
    (raw : ∀ g ∈ p.groups, g.isCustom = false)
    (dated : ∀ row ∈ rows, (ResultRow.date? row).isSome = true)
    (apart : (rows.map p.pointCells).Nodup) (made : p.seriesOfRows rows = .ok series) :
    ((∀ key date, (p.rowsAt rows key date).length ≤ 1) ↔ p.LabelsTell rows) ∧
    ∃ dates keys, p.Spans rows dates keys ∧ series = p.seriesOver rows dates keys ∧
      (p.LabelsTell rows → ∀ row ∈ rows, p.CountsOnce rows dates keys row) := by
  have kept : (∀ key date, (p.rowsAt rows key date).length ≤ 1) ↔ p.LabelsTell rows :=
    (QueryPlan.rowsAt_single raw dated).trans (QueryPlan.place_nodup_iff apart)
  refine ⟨kept, p.datesOf rows, p.keysOf rows, p.spans rows, ?_, ?_⟩
  · rw [QueryPlan.seriesOfRows_ok made, QueryPlan.shown_eq]
  · exact fun tell row member =>
      QueryPlan.countsOnce raw dated (p.spans rows) (kept.mpr tell) member

def sampleSplit : InsightQuery :=
  { sampleRequest with
    metrics := [⟨"$all_event", .sessions⟩]
    groups := [⟨"os", .string, []⟩, ⟨"city", .string, []⟩] }

def sampleSplitRow (count : Int) (os city : Json) : ResultRow :=
  [("date", .text "1970-01-01"), ("$all_event", .int count), ("%os", os), ("%city", city)]

def sampleSplits (rows : List ResultRow) (series : List Series) (also : QueryPlan → Bool) : Bool :=
  (sampleSplit.plan 10).toOption.any fun p => p.groups.all (fun g => !g.isCustom) &&
    rows.all (fun row => (ResultRow.date? row).isSome) &&
    ((rows.map p.pointCells).map fun cells => cells.map Json.render).Nodup &&
    (p.seriesOfRows rows).toOption = some series && also p

theorem sampleSplits_planned {rows : List ResultRow} {series : List Series} {also : QueryPlan → Bool}
    (held : sampleSplits rows series also = true) : ∃ p, sampleSplit.plan 10 = .ok p ∧
      (∀ g ∈ p.groups, g.isCustom = false) ∧
      (∀ row ∈ rows, (ResultRow.date? row).isSome = true) ∧ (rows.map p.pointCells).Nodup ∧
      p.seriesOfRows rows = .ok series ∧ also p = true := by
  obtain ⟨p, planned, checks⟩ := (Option.any_eq_true _ _).mp held
  simp only [Bool.and_eq_true, List.all_eq_true, Bool.not_eq_true', decide_eq_true_iff] at checks
  obtain ⟨⟨⟨⟨raw, dated⟩, apart⟩, made⟩, more⟩ := checks
  exact ⟨p, Checked.ok_of_toOption planned, raw, dated, apart.of_map _,
    Checked.ok_of_toOption made, more⟩

def sampleApart : List ResultRow :=
  [sampleSplitRow 2 .null (.text "Graz"), sampleSplitRow 3 .null (.text "Linz")]

theorem rows_apart_sample : ∃ p dates keys, sampleSplit.plan 10 = .ok p ∧
    (∀ g ∈ p.groups, g.isCustom = false) ∧
    (∀ row ∈ sampleApart, (ResultRow.date? row).isSome = true) ∧
    (sampleApart.map p.pointCells).Nodup ∧ p.LabelsTell sampleApart ∧
    (∀ key date, (p.rowsAt sampleApart key date).length ≤ 1) ∧
    p.seriesOfRows sampleApart = .ok (p.seriesOver sampleApart dates keys) ∧
    p.seriesOver sampleApart dates keys =
      [⟨"$all_event-(null)-Graz", [⟨"1970-01-01", .ofInt 2⟩]⟩,
        ⟨"$all_event-(null)-Linz", [⟨"1970-01-01", .ofInt 3⟩]⟩] ∧
    ∀ row ∈ sampleApart, p.CountsOnce sampleApart dates keys row := by
  have held : sampleSplits sampleApart
      [⟨"$all_event-(null)-Graz", [⟨"1970-01-01", .ofInt 2⟩]⟩,
        ⟨"$all_event-(null)-Linz", [⟨"1970-01-01", .ofInt 3⟩]⟩]
      (fun p => sampleApart.all fun row => (p.pointCells row).all ResultValue.isTold) = true := by
    decide +kernel
  obtain ⟨p, planned, raw, dated, apart, made, told⟩ := sampleSplits_planned held
  have tell : p.LabelsTell sampleApart := QueryPlan.labelsTell_of_told fun row member =>
    List.all_eq_true.mp (List.all_eq_true.mp told row member)
  obtain ⟨single, dates, keys, _, shown, once⟩ := rows_apart raw dated apart made
  exact ⟨p, dates, keys, planned, raw, dated, apart, tell, single.mpr tell, shown ▸ made, shown.symm,
    once tell⟩

def sampleMerged : List ResultRow :=
  [sampleSplitRow 2 .null (.text "Graz"), sampleSplitRow 3 (.text "(null)") (.text "Graz")]

/-- The rows have different cells, and are summed at one point. -/
theorem values_merged : ∃ p, sampleSplit.plan 10 = .ok p ∧ (∀ g ∈ p.groups, g.isCustom = false) ∧
    (∀ row ∈ sampleMerged, (ResultRow.date? row).isSome = true) ∧
    (sampleMerged.map p.pointCells).Nodup ∧
    p.rowsAt sampleMerged [.label "(null)", .label "Graz"] "1970-01-01" = sampleMerged ∧
    p.seriesOfRows sampleMerged = .ok [⟨"$all_event-(null)-Graz", [⟨"1970-01-01", .ofInt 5⟩]⟩] := by
  have held : sampleSplits sampleMerged [⟨"$all_event-(null)-Graz", [⟨"1970-01-01", .ofInt 5⟩]⟩]
      (fun p => sampleMerged.all fun row => ResultRow.date? row = some "1970-01-01" ∧
        p.Selects row [.label "(null)", .label "Graz"]) = true := by
    decide +kernel
  obtain ⟨p, planned, raw, dated, apart, made, all⟩ := sampleSplits_planned held
  exact ⟨p, planned, raw, dated, apart, List.filter_eq_self.mpr (List.all_eq_true.mp all), made⟩

end Analytics
