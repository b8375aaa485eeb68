import Analytics.Service.Engine
import Mathlib.Data.List.Forall2

/-!
What checks say when they pass: the parts of a plan come from the parts of its request, and the parts
of a branch from its source.
-/

namespace Analytics

theorem matched_right {α β : Type} {R : α → β → Prop} {as : List α} {bs : List β} {b : β}
    (matched : List.Forall₂ R as bs) (member : b ∈ bs) : ∃ a ∈ as, R a b := by
  induction matched with
  | nil => cases member
  | cons first _ ih =>
    rcases List.mem_cons.mp member with rfl | later
    · exact ⟨_, List.mem_cons_self, first⟩
    · obtain ⟨a, among, held⟩ := ih later
      exact ⟨a, List.mem_cons_of_mem _ among, held⟩

theorem matched_both {α β γ : Type} {R : α → β → Prop} {S : α → γ → Prop} {T : β → γ → Prop}
    {as : List α} {bs : List β} {cs : List γ} (first : List.Forall₂ R as bs)
    (second : List.Forall₂ S as cs) (both : ∀ {a b c}, R a b → S a c → T b c) :
    List.Forall₂ T bs cs := by
  induction first generalizing cs with
  | nil =>
    cases second
    exact .nil
  | cons head _ ih =>
    cases second with
    | cons other rest => exact .cons (both head other) (ih rest)

theorem matched_map {α β γ : Type} {f : α → γ} {g : β → γ} {as : List α} {bs : List β}
    (matched : List.Forall₂ (fun a b => f a = g b) as bs) : as.map f = bs.map g := by
  induction matched with
  | nil => rfl
  | cons head _ ih => rw [List.map_cons, List.map_cons, head, ih]

theorem map_ok {α β : Type} {f : α → β} {checked : Checked α} {b : β}
    (passed : checked.map f = .ok b) : ∃ a, checked = .ok a ∧ f a = b := by
  cases checked with
  | error fault => cases passed
  | ok a => exact ⟨a, rfl, Except.ok.inj passed⟩

theorem Checked.ok_of_toOption {α : Type} {x : Checked α} {a : α} (passed : x.toOption = some a) :
    x = .ok a := by
  cases x with
  | error fault => cases passed
  | ok b => exact congrArg Except.ok (Option.some.inj passed)

theorem map_error {α β : Type} {f : α → β} {checked : Checked α} {e : Error}
    (failed : checked.map f = .error e) : checked = .error e := by
  cases checked with
  | error fault => exact congrArg Except.error (Except.error.inj failed)
  | ok a => cases failed

theorem checkAll_ok {α β : Type} {check : α → Checked β} {as : List α} {bs : List β}
    (passed : checkAll check as = .ok bs) : List.Forall₂ (fun a b => check a = .ok b) as bs := by
  induction as generalizing bs with
  | nil =>
    cases passed
    exact .nil
  | cons a rest ih =>
    unfold checkAll at passed
    cases first : check a with
    | error fault =>
      rw [first] at passed
      cases passed
    | ok b =>
      rw [first] at passed
      obtain ⟨later, tail, rfl⟩ := map_ok passed
      exact .cons first (ih tail)

theorem checkAll_error {α β : Type} {check : α → Checked β} {as : List α} {e : Error}
    (failed : checkAll check as = .error e) : ∃ a ∈ as, check a = .error e := by
  induction as with
  | nil => cases failed
  | cons a rest ih =>
    unfold checkAll at failed
    cases first : check a with
    | error fault =>
      rw [first] at failed
      cases failed
      exact ⟨a, List.mem_cons_self, first⟩
    | ok b =>
      rw [first] at failed
      obtain ⟨a', later, own⟩ := ih (map_error failed)
      exact ⟨a', List.mem_cons_of_mem a later, own⟩

theorem checkAll_follow {α β γ : Type} {check : α → Checked β} {check' : α → Checked γ}
    {R : β → γ → Prop} {as : List α} {bs : List β} (passed : checkAll check as = .ok bs)
    (follow : ∀ a b, check a = .ok b → ∃ c, check' a = .ok c ∧ R b c) :
    ∃ cs, checkAll check' as = .ok cs ∧ List.Forall₂ R bs cs := by
  have matched := checkAll_ok passed
  clear passed
  induction matched with
  | nil => exact ⟨[], rfl, .nil⟩
  | cons first _ ih =>
    obtain ⟨c, own, held⟩ := follow _ _ first
    obtain ⟨cs, rest, paired⟩ := ih
    refine ⟨c :: cs, ?_, .cons held paired⟩
    rw [checkAll, own, rest]
    rfl

theorem checkAll_concat {α β : Type} {check : α → Checked β} {as : List α} {bs : List β} {a : α}
    {b : β} (passed : checkAll check as = .ok bs) (last : check a = .ok b) :
    checkAll check (as ++ [a]) = .ok (bs ++ [b]) := by
  have matched := checkAll_ok passed
  clear passed
  induction matched with
  | nil =>
    rw [List.nil_append, checkAll, last]
    rfl
  | cons first _ ih =>
    rw [List.cons_append, checkAll, first, ih]
    rfl

theorem Ident.new_text {raw : String} {i : Ident} (named : Ident.new? raw = .ok i) :
    i.text = raw := by
  unfold Ident.new? at named
  split at named
  · cases named
  split at named
  · cases named
  cases named
  rfl

/-- The parts of a request that passes, part by part. -/
structure InsightQuery.Passes (q : InsightQuery) (limit : Nat) (p : QueryPlan) : Prop where
  id : p.insightId = q.insightId
  type : p.insightType = q.insightType
  window : q.time.window = .ok p.window
  buckets : p.window.labels limit = .ok p.buckets
  metrics : RequestedMetric.planAll q.metrics = .ok p.metrics
  filters : checkAll RequestedFilter.plan q.filters = .ok p.filters
  groups : checkAll GroupPlan.ofSpec q.groups = .ok p.groups
  distinct : checkDistinct p.groups = .ok ()

theorem InsightQuery.passes {q : InsightQuery} {limit : Nat} {p : QueryPlan}
    (planned : q.plan limit = .ok p) : q.Passes limit p := by
  unfold InsightQuery.plan at planned
  split at planned
  · cases planned
  rename_i window spanned
  split at planned
  · cases planned
  rename_i buckets labelled
  split at planned
  · cases planned
  rename_i metrics counted
  split at planned
  · cases planned
  rename_i filters filtered
  split at planned
  · cases planned
  rename_i groups grouped
  split at planned
  · cases planned
  rename_i distinct
  cases planned
  exact ⟨rfl, rfl, spanned, labelled, counted, filtered, grouped, distinct⟩

theorem RequestedSpan.window_ok {t : RequestedSpan} {w : Window} (spanned : t.window = .ok w) :
    w.start = t.start ∧ w.finish = t.finish ∧ TimeUnit.parse t.unit = .ok w.unit ∧
      Zone.parse t.zone = .ok w.zone := by
  unfold RequestedSpan.window at spanned
  split at spanned
  · cases spanned
  rename_i unit named
  split at spanned
  · cases spanned
  rename_i zone parsed
  unfold Window.new? at spanned
  split at spanned
  · cases spanned
    exact ⟨rfl, rfl, named, parsed⟩
  · cases spanned

theorem RequestedMetric.planAll_ok {requested : List RequestedMetric} {metrics : List PlannedMetric}
    (passed : RequestedMetric.planAll requested = .ok metrics) :
    List.Forall₂ (fun r m => RequestedMetric.plan requested r = .ok m) requested metrics := by
  unfold RequestedMetric.planAll at passed
  split at passed
  · cases passed
  split at passed
  · cases passed
  exact checkAll_ok passed

theorem RequestedMetric.plan_ok {all : List RequestedMetric} {r : RequestedMetric}
    {m : PlannedMetric} (passed : r.plan all = .ok m) :
    m.name = r.name ∧ m.math = r.math ∧ m.title.text = r.label all := by
  unfold RequestedMetric.plan at passed
  dsimp only at passed
  split at passed
  · cases passed
  split at passed
  · cases passed
  rename_i title named
  cases passed
  exact ⟨rfl, rfl, Ident.new_text named⟩

theorem RequestedFilter.plan_ok {r : RequestedFilter} {f : PlannedFilter}
    (passed : r.plan = .ok f) : f.field = r.name ∧ f.type = r.type ∧ f.value = r.value ∧
      FilterOperator.parse r.operator r.type = .ok f.operator := by
  unfold RequestedFilter.plan at passed
  split at passed
  · cases passed
  obtain ⟨op, parsed, rfl⟩ := map_ok passed
  exact ⟨rfl, rfl, rfl, parsed⟩

namespace Filter

variable {κ : Type} {type : ValueType} {c : StoredColumn κ} {v : Json}

theorem operands_ok {binding : Binding} {vs : List Json} {es : List (Scalar κ)}
    (passed : operands binding vs = .ok es) :
    List.Forall₂ (fun v e => operand binding v = .ok e) vs es := by
  induction vs generalizing es with
  | nil =>
    cases passed
    exact .nil
  | cons v rest ih =>
    unfold operands at passed
    split at passed
    · cases passed
    rename_i first own
    split at passed
    · cases passed
    rename_i others later
    cases passed
    exact .cons own (ih later)

theorem itemsOf_ok {items : List Json} (listed : itemsOf v = .ok items) : v = .array items := by
  unfold itemsOf at listed
  split at listed
  · cases listed
    rfl
  · cases listed

theorem range_ok {p : Predicate κ} (passed : range type c v = .ok p) :
    ∃ low high lower upper, v = .array [low, high] ∧ comparison type c low .atLeast = .ok lower ∧
      comparison type c high .atMost = .ok upper ∧ p = .both lower upper := by
  unfold range at passed
  split at passed
  · cases passed
  rename_i low high bounds
  have shape : v = .array [low, high] := by
    unfold boundsOf at bounds
    split at bounds
    · cases bounds
      rfl
    · cases bounds
  split at passed
  · cases passed
  rename_i lower least
  obtain ⟨upper, most, rfl⟩ := map_ok passed
  exact ⟨low, high, lower, upper, shape, least, most, rfl⟩

end Filter

namespace GroupPlan

/-- A bucket has the operator and value of its request, and both in its title. -/
structure BucketPasses (field : String) (type : ValueType) (r : RequestedBucket) (b : Bucket) :
    Prop where
  operator : FilterOperator.parse r.operator type = .ok b.operator
  value : b.value = r.value
  literal : b.literal = operandText r.value
  title : (b.key field).title = .ok b.title

theorem planBucket_ok {field : String} {type : ValueType} {r : RequestedBucket} {b : Bucket}
    (passed : planBucket field type r = .ok b) : BucketPasses field type r b := by
  unfold planBucket at passed
  dsimp only at passed
  split at passed
  · cases passed
  rename_i operator parsed
  split at passed
  · cases passed
  rename_i title named
  cases passed
  exact ⟨parsed, rfl, rfl, named⟩

-- Without this, both sides are evaluated down to the characters of the operator.
attribute [local irreducible] planBucket in
theorem planBuckets_cons (field : String) (type : ValueType) (r : RequestedBucket)
    (rest : List RequestedBucket) :
    planBuckets field type (r :: rest) = match planBucket field type r with
      | .error e => .error e
      | .ok bucket => (planBuckets field type rest).map (bucket :: ·) := rfl

theorem planBuckets_ok {field : String} {type : ValueType} {rs : List RequestedBucket}
    {bs : List Bucket} (passed : planBuckets field type rs = .ok bs) :
    List.Forall₂ (BucketPasses field type) rs bs := by
  induction rs generalizing bs with
  | nil =>
    cases passed
    exact .nil
  | cons r rest ih =>
    rw [planBuckets_cons] at passed
    split at passed
    · cases passed
    rename_i b first
    obtain ⟨others, later, rfl⟩ := map_ok passed
    exact .cons (planBucket_ok first) (ih later)

/-- The form of a group: raw where no bucket is asked for. -/
inductive FormPasses (r : RequestedGroup) : GroupForm → Prop
  | raw {title : Ident} (none : r.buckets = []) (named : (GroupKey.raw r.field).title = .ok title) :
    FormPasses r (.raw title)
  | custom {buckets : List Bucket} (some : r.buckets ≠ [])
    (paired : List.Forall₂ (BucketPasses r.field r.type) r.buckets buckets) :
    FormPasses r (.custom buckets)

theorem ofSpec_ok {r : RequestedGroup} {g : GroupPlan} (passed : ofSpec r = .ok g) :
    g.field = r.field ∧ g.type = r.type ∧ FormPasses r g.form := by
  unfold ofSpec at passed
  split at passed
  · cases passed
  split at passed
  · rename_i none
    split at passed
    · cases passed
    rename_i title named
    cases passed
    exact ⟨rfl, rfl, .raw none named⟩
  · rename_i some
    obtain ⟨buckets, planned, rfl⟩ := map_ok passed
    exact ⟨rfl, rfl, .custom some (planBuckets_ok planned)⟩

end GroupPlan

namespace GroupColumn

theorem ofBuckets_cons {κ : Type} {type : ValueType} {column : StoredColumn κ} {pinned : Option Nat}
    {position : Nat} {b : Bucket} {rest : List Bucket} {cs : List (GroupColumn κ)}
    (made : ofBuckets type column pinned position (b :: rest) = .ok cs) :
    ∃ expr others, cs = ⟨expr, b.title⟩ :: others ∧
      ofBuckets type column pinned (position + 1) rest = .ok others ∧
        (pinned = some position ∧ (∃ p, Filter.compile type b.operator b.value column = .ok p ∧
          expr = .flag p) ∨ pinned ≠ some position ∧ expr = .zero) := by
  unfold ofBuckets at made
  dsimp only at made
  split at made
  · cases made
  rename_i expr chosen
  obtain ⟨others, later, rfl⟩ := map_ok made
  refine ⟨expr, others, rfl, later, ?_⟩
  split at chosen
  · rename_i here
    obtain ⟨p, compiled, rfl⟩ := map_ok chosen
    exact Or.inl ⟨here, p, compiled, rfl⟩
  · rename_i elsewhere
    cases chosen
    exact Or.inr ⟨elsewhere, rfl⟩

end GroupColumn

namespace Source

theorem groupColumns_cons {s : Source} {index : Nat} {g : GroupPlan} {rest : List GroupPlan}
    {selection : Selection} {cs : List (GroupColumn Column)}
    (made : s.groupColumns index (g :: rest) selection = .ok cs) :
    ∃ column columns others, s.groupColumn index g = .ok column ∧
      GroupColumn.ofPlan g column selection.head?.join = .ok columns ∧
        s.groupColumns (index + 1) rest selection.tail = .ok others ∧ cs = columns ++ others := by
  unfold groupColumns at made
  split at made
  · cases made
  rename_i column read
  split at made
  · cases made
  rename_i columns planned
  obtain ⟨others, later, rfl⟩ := map_ok made
  exact ⟨column, columns, others, read, planned, later, rfl⟩

/-- The parts of a branch that a source makes. -/
structure Makes (s : Source) (p : QueryPlan) (selection : Selection) (b : Branch) : Prop where
  label : b.label = s.dates.label p.window
  relation : b.relation = s.relation
  joins : b.joins = s.joins
  metrics : checkAll s.metric p.metrics = .ok b.metrics
  groups : s.groupColumns 0 p.groups selection = .ok b.groups
  conditions : s.conditions p = .ok b.conditions

theorem makes {s : Source} {p : QueryPlan} {selection : Selection} {b : Branch}
    (made : s.branch p selection = .ok b) : s.Makes p selection b := by
  unfold Source.branch at made
  split at made
  · cases made
  rename_i metrics counted
  split at made
  · cases made
  rename_i groups grouped
  obtain ⟨conditions, confined, rfl⟩ := map_ok made
  exact ⟨rfl, rfl, rfl, counted, grouped, confined⟩

theorem eventOf_some {s : Source} {m : PlannedMetric} {event : Option (Column × String)}
    (known : s.eventOf m = .ok event) : event.isSome = !m.countsEvery := by
  unfold Source.eventOf at known
  cases every : m.countsEvery with
  | true =>
    rw [every] at known
    cases known
    rfl
  | false =>
    rw [every, if_neg Bool.false_ne_true] at known
    split at known
    · cases known
      rfl
    · cases known

theorem metric_ok {s : Source} {m : PlannedMetric} {c : MetricColumn} (made : s.metric m = .ok c) :
    s.eventOf m = .ok c.count.event ∧ s.countedOf m = .ok c.count.distinct ∧
      c.title = m.title := by
  unfold Source.metric at made
  split at made
  · cases made
  rename_i event known
  obtain ⟨counted, found, rfl⟩ := map_ok made
  exact ⟨known, found, rfl⟩

theorem conditions_ok {s : Source} {p : QueryPlan} {cs : List Condition}
    (made : s.conditions p = .ok cs) :
    ∃ event filters, s.eventCondition p = .ok event ∧ checkAll s.filter p.filters = .ok filters ∧
      cs = s.scope ++ .plain (s.dates.range p.window) :: event :: filters := by
  unfold Source.conditions at made
  split at made
  · cases made
  rename_i event known
  obtain ⟨filters, filtered, rfl⟩ := map_ok made
  exact ⟨event, filters, known, filtered, rfl⟩

/-- The branches of a statement are those of the selections, one for each. -/
theorem built {s : Source} {p : QueryPlan} {statement : SeriesStatement}
    (built : s.build p = .ok statement) :
    List.Forall₂ (s.Makes p) (branchSelections p.groups) statement.branches := by
  obtain ⟨branches, passed, rfl⟩ := map_ok built
  exact (checkAll_ok passed).imp fun _ _ => makes

theorem runs_alike {s s' : Source} {p p' : QueryPlan} {b : Branch} {rest : List Branch}
    (made : s.build p = .ok ⟨b :: rest⟩) (runs : s.stops p = false) (dates : s'.dates = s.dates)
    (window : p'.window = p.window) : s'.stops p' = false := by
  obtain ⟨selection, selections, makes, -, shape⟩ := List.forall₂_cons_right_iff.mp (built made)
  have shown : (decide ((s.dates.chosen p.window).2 = .date) && !p.window.showsDates) = false := by
    simpa [stops, shape, makes.metrics, makes.groups, Except.isOk, Except.toBool] using runs
  rw [stops, dates, window, shown, Bool.false_and]

end Source

namespace Engine

variable {w : World} {e e' : Engine} {q : InsightQuery} {prepared : Prepared}

theorem prepare_steps (done : e.prepare w q = (.ok prepared, e')) :
    (q.plan e.maxBuckets = .ok prepared.plan ∧
      (e.registry.resolve w.canOpen prepared.plan.insightId prepared.plan.insightType).1
          = .ok prepared.resolved ∧
        (prepared.resolved.source prepared.plan).build prepared.plan = .ok prepared.statement) ∧
      (prepared.resolved.source prepared.plan).stops prepared.plan = false := by
  unfold Engine.prepare Engine.locate at done
  cases planned : q.plan e.maxBuckets with
  | error fault =>
    rw [planned] at done
    cases done
  | ok plan =>
    rw [planned] at done
    dsimp only at done
    cases found : (e.registry.resolve w.canOpen plan.insightId plan.insightType).1 with
    | error fault =>
      rw [found] at done
      cases done
    | ok resolved =>
      rw [found] at done
      have answer := (Prod.mk.inj done).1
      split at answer
      · cases answer
      · rename_i runs
        obtain ⟨statement, built, rfl⟩ := map_ok answer
        exact ⟨⟨rfl, found, built⟩, Bool.not_eq_true _ ▸ runs⟩

/-- The plan, the source and the statement of a request that is prepared. -/
theorem prepare_ok (done : e.prepare w q = (.ok prepared, e')) :
    q.plan e.maxBuckets = .ok prepared.plan ∧
      (e.registry.resolve w.canOpen prepared.plan.insightId prepared.plan.insightType).1
          = .ok prepared.resolved ∧
        (prepared.resolved.source prepared.plan).build prepared.plan = .ok prepared.statement :=
  (prepare_steps done).1

end Engine

theorem exists_built {q : InsightQuery} {r : Resolved} (builds : (match q.plan 10 with
    | .ok p => ((r.source p).build p).toOption.isSome
    | .error _ => false) = true) : ∃ p s, q.plan 10 = .ok p ∧ (r.source p).build p = .ok s := by
  cases planned : q.plan 10 with
  | error fault =>
    rw [planned] at builds
    cases builds
  | ok p =>
    rw [planned] at builds
    cases built : (r.source p).build p with
    | error fault =>
      simp only [built] at builds
      cases builds
    | ok s => exact ⟨p, s, rfl, built⟩

def sampleRequest : InsightQuery where
  insightId := "site"
  insightType := .internal
  time := ⟨⟨0, 0⟩, ⟨86400, 0⟩, "day", ""⟩
  metrics := [⟨"visit", .events⟩, ⟨"$all_event", .sessions⟩]
  filters := [⟨"country", .string, "in", .array [.text "AT", .text "it's ?"]⟩]
  groups := [⟨"os", .string, []⟩, ⟨"city", .string, [⟨"eq", .text "Graz"⟩, ⟨"contains", .text "r"⟩]⟩]

theorem sampleRequest_builds : ∃ p s, sampleRequest.plan 10 = .ok p ∧
    (Resolved.internal.source p).build p = .ok s := exists_built (by decide +kernel)

def sampleEngine : Engine :=
  ⟨.sqlite, .ofSetup ⟨false, none, ""⟩, 10, 10, 100⟩

def sampleColumns : List (String × Affinity) :=
  ("id", .integer) :: (["website_id", "session_id", "event_name", "created_at", "created_date"]
    ++ Internal.dimensions.map (·.text)).map (·, .text)

def sampleWorld (events : Table) : World :=
  ⟨fun _ => true, ⟨[("website_event", events)]⟩, fun _ => .empty⟩

end Analytics
