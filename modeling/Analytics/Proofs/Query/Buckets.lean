import Analytics.Proofs.Query.Checks

/-!
Requests with a bucket and with a filter. A bucket and the filter of the same operator and operand pass
the same checks: where the one request has a plan, so has the other.
-/

namespace Analytics

def Bucket.group (b : Bucket) (field : String) (type : ValueType) : GroupPlan :=
  ⟨field, type, .custom [b]⟩

/-- The filter with the operator and operand of a bucket. -/
def Bucket.filter (b : Bucket) (field : String) (type : ValueType) : PlannedFilter :=
  ⟨field, type, b.operator, b.value⟩

def QueryPlan.withFilter (p : QueryPlan) (f : PlannedFilter) : QueryPlan :=
  { p with filters := p.filters ++ [f], groups := [] }

namespace GroupKey

theorem title_parts {k : GroupKey} {title : Ident} (named : k.title = .ok title) :
    checkParts k.parts = .ok () := by
  unfold GroupKey.title at named
  split at named
  · cases named
  · assumption

theorem checkParts_mem {parts : List String} (passed : checkParts parts = .ok ()) :
    ∀ part ∈ parts, Ident.checkComponent part = .ok () := by
  induction parts with
  | nil => exact fun part member => absurd member List.not_mem_nil
  | cons first rest ih =>
    unfold checkParts at passed
    split at passed
    · cases passed
    · exact List.forall_mem_cons.mpr ⟨by assumption, ih passed⟩

end GroupKey

theorem GroupPlan.BucketPasses.listed {field : String} {type : ValueType} {r : RequestedBucket}
    {b : Bucket} (passes : BucketPasses field type r b) : Filter.itemsOf b.value ≠ .ok [] := by
  intro empty
  have literal : b.literal = "" := by
    unfold Filter.itemsOf at empty
    split at empty
    · rename_i items listed
      rw [passes.literal, ← passes.value, listed, Except.ok.inj empty]
      rfl
    · cases empty
  have checked := GroupKey.checkParts_mem (GroupKey.title_parts passes.title) b.literal
    (by simp [Bucket.key, GroupKey.parts])
  rw [literal] at checked
  cases checked

namespace InsightQuery

def withBucket (q : InsightQuery) (f : RequestedFilter) : InsightQuery :=
  { q with groups := [⟨f.name, f.type, [⟨f.operator, f.value⟩]⟩] }

def withFilter (q : InsightQuery) (f : RequestedFilter) : InsightQuery :=
  { q with filters := q.filters ++ [f] }

end InsightQuery

theorem GroupPlan.ofSpec_bucket {field : String} {type : ValueType} {spec : RequestedBucket}
    {g : GroupPlan} (passed : ofSpec ⟨field, type, [spec]⟩ = .ok g) :
    Ident.checkComponent field = .ok () ∧
      ∃ b, planBucket field type spec = .ok b ∧ g = b.group field type := by
  unfold ofSpec at passed
  dsimp only at passed
  split at passed
  · cases passed
  rename_i checked
  obtain ⟨buckets, planned, rfl⟩ := map_ok passed
  rw [planBuckets_cons] at planned
  split at planned
  · cases planned
  rename_i b first
  obtain ⟨others, none, rfl⟩ := map_ok planned
  cases none
  exact ⟨checked, b, first, rfl⟩

theorem InsightQuery.filter_planned {q : InsightQuery} {f : RequestedFilter} {limit : Nat}
    {p : QueryPlan} (ungrouped : q.groups = []) (passes : (q.withBucket f).Passes limit p) :
    ∃ b, GroupPlan.planBucket f.name f.type ⟨f.operator, f.value⟩ = .ok b ∧
      p.groups = [b.group f.name f.type] ∧
      (q.withFilter f).plan limit = .ok (p.withFilter (b.filter f.name f.type)) := by
  obtain ⟨g, rest, passed, none, groups⟩ :=
    List.forall₂_cons_left_iff.mp (checkAll_ok passes.groups)
  cases none
  obtain ⟨checked, b, planned, rfl⟩ := GroupPlan.ofSpec_bucket passed
  have parts := GroupPlan.planBucket_ok planned
  have filter : f.plan = .ok (b.filter f.name f.type) := by
    unfold RequestedFilter.plan
    rw [checked]
    dsimp only
    rw [parts.operator]
    unfold Bucket.filter
    rw [parts.value]
    rfl
  refine ⟨b, planned, groups, ?_⟩
  have filters : checkAll RequestedFilter.plan (q.withFilter f).filters
      = .ok (p.filters ++ [b.filter f.name f.type]) := checkAll_concat passes.filters filter
  have window : (q.withFilter f).time.window = .ok p.window := passes.window
  have metrics : RequestedMetric.planAll (q.withFilter f).metrics = .ok p.metrics := passes.metrics
  have none : (q.withFilter f).groups = [] := ungrouped
  have grouped : checkAll GroupPlan.ofSpec (q.withFilter f).groups = .ok [] := none ▸ rfl
  have distinct : checkDistinct [] = .ok () := rfl
  obtain ⟨id, type, _, _, _, _, _⟩ := p
  cases passes.id
  cases passes.type
  unfold InsightQuery.plan
  simp only [window, passes.buckets, metrics, filters, grouped, distinct]
  rfl

end Analytics
