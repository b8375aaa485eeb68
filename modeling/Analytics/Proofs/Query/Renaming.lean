import Analytics.Proofs.Sql.Outlines

/-!
Renamed requests. A renaming gives other names to tables, columns and events and other literals to
buckets; a request and its renamed form have plans that differ in names and literals only.
-/

namespace Analytics

structure Renaming where
  table : String → String
  column : String → String
  event : String → String
  literal : Json → Json
  columns_apart : Function.Injective column
  events_apart : Function.Injective event
  every_event : event allEvent = allEvent
  /-- A list keeps its length. -/
  lists_long : ∀ v : Json, v.Alike (literal v)

def InsightQuery.renamed (ρ : Renaming) (q : InsightQuery) : InsightQuery :=
  { q with
    metrics := q.metrics.map fun m => { m with name := ρ.event m.name }
    filters := q.filters.map fun f => { f with name := ρ.column f.name }
    groups := q.groups.map fun g =>
      { g with
        field := ρ.column g.field
        buckets := g.buckets.map fun b => { b with value := ρ.literal b.value } } }

structure PlannedMetric.Renamed (ρ : Renaming) (m m' : PlannedMetric) : Prop where
  name : m'.name = ρ.event m.name
  math : m'.math = m.math

structure PlannedFilter.Renamed (ρ : Renaming) (f f' : PlannedFilter) : Prop where
  field : f'.field = ρ.column f.field
  type : f'.type = f.type
  operator : f'.operator = f.operator
  value : f'.value = f.value

structure Bucket.Alike (b b' : Bucket) : Prop where
  operator : b'.operator = b.operator
  value : b.value.Alike b'.value

inductive GroupForm.Alike : GroupForm → GroupForm → Prop
  | raw (title title' : Ident) : Alike (.raw title) (.raw title')
  | custom {buckets buckets' : List Bucket} (paired : List.Forall₂ Bucket.Alike buckets buckets') :
    Alike (.custom buckets) (.custom buckets')

structure GroupPlan.Renamed (ρ : Renaming) (g g' : GroupPlan) : Prop where
  field : g'.field = ρ.column g.field
  type : g'.type = g.type
  form : g.form.Alike g'.form

structure QueryPlan.Renamed (ρ : Renaming) (p p' : QueryPlan) : Prop where
  window : p'.window = p.window
  metrics : List.Forall₂ (PlannedMetric.Renamed ρ) p.metrics p'.metrics
  filters : List.Forall₂ (PlannedFilter.Renamed ρ) p.filters p'.filters
  groups : List.Forall₂ (GroupPlan.Renamed ρ) p.groups p'.groups

variable {ρ : Renaming}

theorem GroupPlan.renamed {r : RequestedGroup} {g g' : GroupPlan} (first : ofSpec r = .ok g)
    (second : ofSpec
      { r with
        field := ρ.column r.field
        buckets := r.buckets.map fun b => { b with value := ρ.literal b.value } } = .ok g') :
    g.Renamed ρ g' := by
  obtain ⟨field, type, form⟩ := ofSpec_ok first
  obtain ⟨field', type', form'⟩ := ofSpec_ok second
  refine ⟨by rw [field', field], by rw [type', type], ?_⟩
  generalize g.form = own at form
  generalize g'.form = other at form'
  cases form with
  | raw none named =>
    cases form' with
    | raw none' named' => exact .raw _ _
    | custom some' _ => exact absurd (List.map_eq_nil_iff.mpr none) some'
  | custom some paired =>
    cases form' with
    | raw none' _ => exact absurd (List.map_eq_nil_iff.mp none') some
    | custom some' paired' =>
      have renamed := List.forall₂_map_left_iff.mp paired'
      refine .custom (matched_both paired renamed fun {b c c'} passes passes' => ?_)
      have parsed := passes.operator.symm.trans passes'.operator
      refine ⟨(Except.ok.inj parsed).symm, ?_⟩
      rw [passes.value, passes'.value]
      exact ρ.lists_long b.value

/-- The plans of a request and of its renamed form differ in names and literals only. -/
theorem QueryPlan.renamed {q : InsightQuery} {limit limit' : Nat} {p p' : QueryPlan}
    (first : q.plan limit = .ok p) (second : (q.renamed ρ).plan limit' = .ok p') :
    p.Renamed ρ p' := by
  have own := InsightQuery.passes first
  have other := InsightQuery.passes second
  constructor
  · exact Except.ok.inj (other.window.symm.trans own.window)
  · have renamed := List.forall₂_map_left_iff.mp (RequestedMetric.planAll_ok other.metrics)
    refine matched_both (RequestedMetric.planAll_ok own.metrics) renamed ?_
    intro r m m' passes passes'
    obtain ⟨name, math, _⟩ := RequestedMetric.plan_ok passes
    obtain ⟨name', math', _⟩ := RequestedMetric.plan_ok passes'
    exact ⟨by rw [name', name], by rw [math', math]⟩
  · have renamed := List.forall₂_map_left_iff.mp (checkAll_ok other.filters)
    refine matched_both (checkAll_ok own.filters) renamed ?_
    intro r f f' passes passes'
    obtain ⟨field, type, value, parsed⟩ := RequestedFilter.plan_ok passes
    obtain ⟨field', type', value', parsed'⟩ := RequestedFilter.plan_ok passes'
    exact ⟨by rw [field', field], by rw [type', type],
      (Except.ok.inj (parsed.symm.trans parsed')).symm, by rw [value', value]⟩
  · have renamed := List.forall₂_map_left_iff.mp (checkAll_ok other.groups)
    exact matched_both (checkAll_ok own.groups) renamed GroupPlan.renamed

namespace QueryPlan

variable {p p' : QueryPlan}

/-- A renamed event is every event if and only if it was. -/
theorem countsEvery_renamed {m m' : PlannedMetric} (renamed : m.Renamed ρ m') :
    m'.countsEvery = m.countsEvery := by
  have same : ρ.event m.name = allEvent ↔ m.name = allEvent := by
    constructor
    · intro every
      exact ρ.events_apart (every.trans ρ.every_event.symm)
    · intro every
      rw [every, ρ.every_event]
  simp only [PlannedMetric.countsEvery, renamed.name, same]

theorem anyEvery_renamed (renamed : p.Renamed ρ p') : p'.countsEvery = p.countsEvery := by
  have any {ms ms' : List PlannedMetric} (matched : List.Forall₂ (PlannedMetric.Renamed ρ) ms ms') :
      ms'.any (·.countsEvery) = ms.any (·.countsEvery) := by
    induction matched with
    | nil => rfl
    | cons head _ ih => rw [List.any_cons, List.any_cons, countsEvery_renamed head, ih]
  exact any renamed.metrics

theorem distinctNames_map {f : String → String} (apart : Function.Injective f)
    (seen names : List String) :
    distinctNames (seen.map f) (names.map f) = (distinctNames seen names).map f := by
  induction names generalizing seen with
  | nil => rfl
  | cons name rest ih =>
    have known : (seen.map f).contains (f name) = seen.contains name := by
      simp only [List.contains_eq_mem, List.mem_map_of_injective apart]
    rw [List.map_cons, distinctNames, distinctNames, known]
    split
    · exact ih seen
    · rw [List.map_cons, ← ih (name :: seen), List.map_cons]

theorem eventNames_renamed (renamed : p.Renamed ρ p') :
    p'.eventNames = p.eventNames.map ρ.event := by
  have names {ms ms' : List PlannedMetric} (matched : List.Forall₂ (PlannedMetric.Renamed ρ) ms ms') :
      (ms'.filter fun m => !m.countsEvery).map (·.name)
        = ((ms.filter fun m => !m.countsEvery).map (·.name)).map ρ.event := by
    induction matched with
    | nil => rfl
    | cons head _ ih =>
      rw [List.filter_cons, List.filter_cons, countsEvery_renamed head]
      split
      · rw [List.map_cons, List.map_cons, List.map_cons, head.name, ih]
      · exact ih
  rw [eventNames, names renamed.metrics, ← List.map_nil (f := ρ.event),
    distinctNames_map ρ.events_apart, eventNames]

theorem choices_renamed {g g' : GroupPlan} (renamed : g.Renamed ρ g') : g'.choices = g.choices := by
  have form := renamed.form
  unfold GroupPlan.choices
  generalize g.form = own at form
  generalize g'.form = other at form
  cases form with
  | raw title title' => rfl
  | custom paired => exact congrArg (fun n => (List.range n).map some) paired.length_eq.symm

theorem branchSelections_renamed (renamed : p.Renamed ρ p') :
    branchSelections p'.groups = branchSelections p.groups := by
  have choices {gs gs' : List GroupPlan} (matched : List.Forall₂ (GroupPlan.Renamed ρ) gs gs') :
      gs'.map GroupPlan.choices = gs.map GroupPlan.choices := by
    induction matched with
    | nil => rfl
    | cons head _ ih => rw [List.map_cons, List.map_cons, choices_renamed head, ih]
  have same : p'.groups.map GroupPlan.choices = p.groups.map GroupPlan.choices :=
    choices renamed.groups
  exact congrArg combinations same

end QueryPlan

end Analytics
