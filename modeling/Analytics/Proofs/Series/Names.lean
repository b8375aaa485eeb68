import Analytics.Proofs.Series.Merging
import Analytics.Proofs.Text.Joined

/-!
Names of series. A name joins the metric's and one label for each group by dashes, which labels may hold
as well. Main statement: where metrics have different names, the parts of names tell series apart; two
series share a name only if their parts are entangled, one label going on where another one ends.
-/

namespace Analytics

theorem FilterOperator.name_blankless (op : FilterOperator) : ' ' ∉ op.name.toList := by
  cases op <;> decide

theorem Bucket.key_of_label {b b' : Bucket} (field : String) (same : b.label = b'.label) :
    b.key field = b'.key field := by
  have chars : b.operator.name.toList ++ ' ' :: b.literal.toList
      = b'.operator.name.toList ++ ' ' :: b'.literal.toList := by
    have read := congrArg String.toList same
    simp only [label, String.toList_append, List.append_assoc] at read
    exact read
  have operator : b.operator.name.toList = b'.operator.name.toList := by
    rcases Text.parted chars with equal | ⟨w, longer⟩ | ⟨w, longer⟩
    · exact equal
    · exact absurd (longer ▸ List.mem_append_right _ List.mem_cons_self)
        b'.operator.name_blankless
    · exact absurd (longer ▸ List.mem_append_right _ List.mem_cons_self)
        b.operator.name_blankless
  rw [operator, List.append_cancel_left_eq] at chars
  unfold key
  rw [String.toList_injective operator, String.toList_injective (List.cons.inj chars).2]

namespace GroupPlan

variable {g : GroupPlan} {row : ResultRow} {value other : GroupValue}

def fits (g : GroupPlan) (value : GroupValue) : Bool :=
  match g.form, value with
  | .raw _, .label _ => true
  | .custom buckets, .bucket i => i < buckets.length
  | _, _ => false

theorem fits_of_shows (shown : g.shows row value = true) : g.fits value = true := by
  unfold shows at shown
  unfold fits
  cases form : g.form with
  | raw title =>
    rw [form] at shown
    cases value with
    | bucket i => cases shown
    | label text => rfl
  | custom buckets =>
    rw [form] at shown
    cases value with
    | bucket i =>
      obtain ⟨b, inside, _⟩ := (Option.any_eq_true _ _).mp shown
      exact decide_eq_true (List.getElem?_eq_some_iff.mp inside).1
    | label text => cases shown

theorem fits_of_offers (offered : g.offers value = true) : g.fits value = true := by
  unfold offers at offered
  unfold fits
  cases form : g.form with
  | raw title =>
    rw [form] at offered
    cases offered
  | custom buckets =>
    rw [form] at offered
    cases value with
    | bucket i => exact offered
    | label text => cases offered

theorem place_of_label {field : String} {type : ValueType} {rs : List RequestedBucket}
    {buckets : List Bucket} (paired : List.Forall₂ (BucketPasses field type) rs buckets)
    (once : (buckets.map fun b => b.title.text).Nodup) {i j : Nat} (first : i < buckets.length)
    (second : j < buckets.length) (same : buckets[i].label = buckets[j].label) : i = j := by
  obtain ⟨_, _, made⟩ := matched_right paired (List.getElem_mem first)
  obtain ⟨_, _, made'⟩ := matched_right paired (List.getElem_mem second)
  have title : buckets[i].title.text = buckets[j].title.text := by
    rw [GroupKey.title_text made.title, GroupKey.title_text made'.title,
      Bucket.key_of_label field same]
  have bucket := List.inj_on_of_nodup_map once (List.getElem_mem first) (List.getElem_mem second) title
  exact once.of_map.getElem_inj_iff.mp bucket

theorem valueLabel_inj {r : RequestedGroup} (passed : ofSpec r = .ok g)
    (once : (g.titles.map (·.text)).Nodup) (fit : g.fits value = true) (fit' : g.fits other = true)
    (same : g.valueLabel value = g.valueLabel other) : value = other := by
  obtain ⟨_, _, passes⟩ := ofSpec_ok passed
  unfold fits at fit fit'
  unfold valueLabel at same
  unfold titles at once
  cases form : g.form with
  | raw title =>
    rw [form] at fit fit'
    cases value with
    | bucket i => cases fit
    | label s =>
      cases other with
      | bucket j => cases fit'
      | label t => exact congrArg GroupValue.label same
  | custom buckets =>
    rw [form] at fit fit' same once passes
    cases passes with
    | custom _ paired =>
      cases value with
      | label s => cases fit
      | bucket i =>
        cases other with
        | label t => cases fit'
        | bucket j =>
          have first := of_decide_eq_true fit
          have second := of_decide_eq_true fit'
          simp only [List.getElem?_eq_getElem first, List.getElem?_eq_getElem second] at same
          rw [List.map_map] at once
          rw [place_of_label paired once first second same]

end GroupPlan

namespace QueryPlan

variable {q : InsightQuery} {limit : Nat} {p : QueryPlan} {rows : List ResultRow}
  {dates : List String} {keys : List (List GroupValue)}

def seriesParts (p : QueryPlan) (keys : List (List GroupValue)) : List (List String) :=
  p.metrics.flatMap fun m => keys.map (p.nameParts m)

theorem seriesOver_names (p : QueryPlan) (rows : List ResultRow) (dates : List String)
    (keys : List (List GroupValue)) : (p.seriesOver rows dates keys).map (·.name)
      = (p.seriesParts keys).map (String.intercalate "-") := by
  unfold seriesOver seriesParts
  simp only [List.map_flatMap, List.map_map, Function.comp_def]

theorem fits_of_mem {key : List GroupValue} (spans : p.Spans rows dates keys) (member : key ∈ keys) :
    List.Forall₂ (fun value g => GroupPlan.fits g value = true) key p.groups := by
  rcases (spans.keys key).mp member with ⟨_, offered⟩ | ⟨_, _, _, selected⟩
  · exact List.Forall₂.imp (fun _ _ => GroupPlan.fits_of_offers) offered
  · exact List.Forall₂.imp (fun _ _ => GroupPlan.fits_of_shows) selected

theorem labels_inj {groups : List GroupPlan} {key other : List GroupValue}
    (apart : ∀ g ∈ groups, ∀ v w, g.fits v = true → g.fits w = true →
      g.valueLabel v = g.valueLabel w → v = w)
    (fit : List.Forall₂ (fun value g => GroupPlan.fits g value = true) key groups)
    (fit' : List.Forall₂ (fun value g => GroupPlan.fits g value = true) other groups)
    (same : List.zipWith GroupPlan.valueLabel groups key
      = List.zipWith GroupPlan.valueLabel groups other) : key = other := by
  induction fit generalizing other with
  | nil => cases fit'; rfl
  | @cons v g key groups own _ ih =>
    obtain ⟨first, rest⟩ := List.forall_mem_cons.mp apart
    cases fit' with
    | @cons w _ other _ own' fit' =>
      obtain ⟨label, labels⟩ := List.cons.inj same
      rw [first v w own own' label, ih rest fit' labels]

section

variable (passes : q.Passes limit p) (spans : p.Spans rows dates keys)

include passes spans

theorem nameParts_inj {m m' : PlannedMetric} {key other : List GroupValue} (member : key ∈ keys)
    (member' : other ∈ keys) (same : p.nameParts m key = p.nameParts m' other) :
    m.title.text = m'.title.text ∧ key = other := by
  obtain ⟨title, labels⟩ := List.cons.inj same
  refine ⟨title, labels_inj ?_ (fits_of_mem spans member) (fits_of_mem spans member') labels⟩
  intro g among v w
  obtain ⟨r, _, passed⟩ := matched_right (checkAll_ok passes.groups) among
  have once : (g.titles.map (·.text)).Nodup := by
    have all := (isTold passes).groups
    unfold groupTitles at all
    rw [List.map_flatMap, List.nodup_flatMap] at all
    exact all.1 g among
  exact GroupPlan.valueLabel_inj passed once

theorem seriesParts_nodup (distinct : (p.metrics.map (·.title.text)).Nodup) :
    (p.seriesParts keys).Nodup := by
  have once : keys.Nodup := GroupValue.combination_strict.nodup
    (spans.keysOrdered.imp GroupValue.combinationBefore_iff.mpr)
  apply List.nodup_flatMap.mpr ⟨?_, ?_⟩
  · intro m _
    apply once.map_on
    exact fun key member other member' same => (nameParts_inj passes spans member member' same).2
  · refine (List.pairwise_map.mp distinct).imp ?_
    intro m m' differ parts left right
    obtain ⟨key, member, rfl⟩ := List.mem_map.mp left
    obtain ⟨other, member', same⟩ := List.mem_map.mp right
    exact differ (nameParts_inj passes spans member' member same).1.symm

omit passes in
theorem seriesParts_length {parts : List String} (member : parts ∈ p.seriesParts keys) :
    parts.length = p.groups.length + 1 := by
  obtain ⟨m, _, inside⟩ := List.mem_flatMap.mp member
  obtain ⟨key, among, rfl⟩ := List.mem_map.mp inside
  have long := (fits_of_mem spans among).length_eq
  unfold nameParts
  rw [List.length_cons, List.length_zipWith, long, Nat.min_self]

end

end QueryPlan

/-- Series have different parts, and share a name only if these are entangled. -/
theorem names_identify {q : InsightQuery} {limit : Nat} {p : QueryPlan} {rows : List ResultRow}
    {series : List Series} (planned : q.plan limit = .ok p)
    (distinct : (p.metrics.map (·.title.text)).Nodup) (made : p.seriesOfRows rows = .ok series) :
    ∃ dates keys, p.Spans rows dates keys ∧ series = p.seriesOver rows dates keys ∧
      series.map (·.name) = (p.seriesParts keys).map (String.intercalate "-") ∧
      (p.seriesParts keys).Nodup ∧
      (∀ ps ∈ p.seriesParts keys, ∀ qs ∈ p.seriesParts keys, ps ≠ qs →
        String.intercalate "-" ps = String.intercalate "-" qs → Text.Entangled ps qs) ∧
      (Text.Untangled (p.seriesParts keys) → (series.map (·.name)).Nodup) := by
  have passes := InsightQuery.passes planned
  have spans := p.spans rows
  have shown : series = p.seriesOver rows (p.datesOf rows) (p.keysOf rows) := by
    rw [QueryPlan.seriesOfRows_ok made, QueryPlan.shown_eq]
  have names : series.map (·.name)
      = (p.seriesParts (p.keysOf rows)).map (String.intercalate "-") := by
    rw [shown, QueryPlan.seriesOver_names]
  have once := QueryPlan.seriesParts_nodup passes spans distinct
  have tangled : ∀ ps ∈ p.seriesParts (p.keysOf rows), ∀ qs ∈ p.seriesParts (p.keysOf rows),
      ps ≠ qs → String.intercalate "-" ps = String.intercalate "-" qs → Text.Entangled ps qs := by
    intro ps member qs member' differ same
    refine Text.entangled_of_joined ?_ same differ
    rw [QueryPlan.seriesParts_length spans member, QueryPlan.seriesParts_length spans member']
  refine ⟨_, _, spans, shown, names, once, tangled, fun free => ?_⟩
  rw [names]
  apply once.map_on
  intro ps member qs member' same
  by_contra differ
  exact free.apart member member' (tangled ps member qs member' differ same)

def sampleNamed : List ResultRow :=
  [sampleSplitRow 2 (.text "b") (.text "a-b"), sampleSplitRow 3 (.text "a-b") (.text "b")]

theorem names_identify_sample : ∃ p series, sampleSplit.plan 10 = .ok p ∧
    (p.metrics.map (·.title.text)).Nodup ∧ p.seriesOfRows sampleNamed = .ok series ∧
    Text.Untangled (p.seriesParts (p.keysOf sampleNamed)) ∧
    series.map (·.name) = ["$all_event-a-b-b", "$all_event-b-a-b"] ∧ (series.map (·.name)).Nodup := by
  have held : sampleSplits sampleNamed
      [⟨"$all_event-a-b-b", [⟨"1970-01-01", .ofInt 3⟩]⟩,
        ⟨"$all_event-b-a-b", [⟨"1970-01-01", .ofInt 2⟩]⟩]
      (fun p => (p.metrics.map (·.title.text)).Nodup ∧ p.seriesParts (p.keysOf sampleNamed)
        = [["$all_event", "a-b", "b"], ["$all_event", "b", "a-b"]]) = true := by
    decide +kernel
  obtain ⟨p, planned, _, _, _, made, told⟩ := sampleSplits_planned held
  obtain ⟨distinct, parts⟩ := of_decide_eq_true told
  have free : Text.Untangled (p.seriesParts (p.keysOf sampleNamed)) := by
    rw [parts]
    exact ⟨2, by decide⟩
  obtain ⟨dates, keys, spans, _, _, _, _, once⟩ := names_identify planned distinct made
  exact ⟨p, _, planned, distinct, made, free, rfl, once (spans.determined.2 ▸ free)⟩

def sampleShared : List ResultRow :=
  [sampleSplitRow 2 (.text "a-b") (.text "c"), sampleSplitRow 3 (.text "a") (.text "b-c")]

/-- The series have different parts, and one name. -/
theorem names_shared : ∃ p series, sampleSplit.plan 10 = .ok p ∧
    (p.metrics.map (·.title.text)).Nodup ∧ p.seriesOfRows sampleShared = .ok series ∧
    p.seriesParts (p.keysOf sampleShared) = [["$all_event", "a", "b-c"], ["$all_event", "a-b", "c"]] ∧
    series.map (·.name) = ["$all_event-a-b-c", "$all_event-a-b-c"] ∧
    ¬(series.map (·.name)).Nodup := by
  have held : sampleSplits sampleShared
      [⟨"$all_event-a-b-c", [⟨"1970-01-01", .ofInt 3⟩]⟩,
        ⟨"$all_event-a-b-c", [⟨"1970-01-01", .ofInt 2⟩]⟩]
      (fun p => (p.metrics.map (·.title.text)).Nodup ∧ p.seriesParts (p.keysOf sampleShared)
        = [["$all_event", "a", "b-c"], ["$all_event", "a-b", "c"]]) = true := by
    decide +kernel
  obtain ⟨p, planned, _, _, _, made, told⟩ := sampleSplits_planned held
  obtain ⟨distinct, parts⟩ := of_decide_eq_true told
  exact ⟨p, _, planned, distinct, made, parts, rfl, by decide⟩

end Analytics
