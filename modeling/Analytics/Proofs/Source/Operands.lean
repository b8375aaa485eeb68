import Analytics.Proofs.Sql.Forms
import Analytics.Proofs.Sql.Names
import Analytics.Service.Engine

/-!
Operands and statements. Two requests that differ in the operands of their filters, and in what else
is bound and never written, have statements of one form: the same text, and parameters of the same
kinds in the same places. The main statement says so of series over every source, as they are built
and as a store reads them, and of listings.
-/

namespace Analytics

/-- Whether two filters differ in their operands only. The lists of memberships are equally long. -/
structure RequestedFilter.SameButOperand (f f' : RequestedFilter) : Prop where
  name : f'.name = f.name
  type : f'.type = f.type
  operator : f'.operator = f.operator
  long : ∀ op, FilterOperator.parse f.operator f.type = .ok op →
    op = .inList ∨ op = .notInList → f.value.Alike f'.value

/-- Whether two requests for series differ in the operands of their filters only and, about the
service's own events, in the insight. -/
structure InsightQuery.SameButOperands (q q' : InsightQuery) : Prop where
  type : q'.insightType = q.insightType
  id : q.insightType ≠ .internal → q'.insightId = q.insightId
  time : q'.time = q.time
  metrics : q'.metrics = q.metrics
  filters : List.Forall₂ RequestedFilter.SameButOperand q.filters q'.filters
  groups : q'.groups = q.groups

/-- Whether two requests for events differ in the operands of their filters, the insight, the limit
and the place of the cursor only. -/
structure EventListRequest.SameButOperands (r r' : EventListRequest) : Prop where
  filters : List.Forall₂ RequestedFilter.SameButOperand r.filters r'.filters
  cursor : r'.cursor.isSome = r.cursor.isSome
  order : r'.order = r.order
  time : r'.time = r.time

structure PlannedFilter.SameButOperand (f f' : PlannedFilter) : Prop where
  field : f'.field = f.field
  type : f'.type = f.type
  operator : f'.operator = f.operator
  long : f.operator = .inList ∨ f.operator = .notInList → f.value.Alike f'.value

structure QueryPlan.SameButOperands (p p' : QueryPlan) : Prop where
  window : p'.window = p.window
  metrics : p'.metrics = p.metrics
  filters : List.Forall₂ PlannedFilter.SameButOperand p.filters p'.filters
  groups : p'.groups = p.groups

theorem RequestedFilter.SameButOperand.planned {r r' : RequestedFilter} {f f' : PlannedFilter}
    (same : r.SameButOperand r') (first : r.plan = .ok f) (second : r'.plan = .ok f') :
    f.SameButOperand f' := by
  obtain ⟨field, type, value, parsed⟩ := RequestedFilter.plan_ok first
  obtain ⟨field', type', value', parsed'⟩ := RequestedFilter.plan_ok second
  rw [same.operator, same.type, parsed] at parsed'
  refine ⟨by rw [field', field, same.name], by rw [type', type, same.type],
    (Except.ok.inj parsed').symm, fun listed => ?_⟩
  rw [value, value']
  exact same.long _ parsed listed

namespace InsightQuery.SameButOperands

variable {q q' : InsightQuery}

theorem planned {limit limit' : Nat} {p p' : QueryPlan} (same : q.SameButOperands q')
    (first : q.plan limit = .ok p) (second : q'.plan limit' = .ok p') : p.SameButOperands p' := by
  have own := InsightQuery.passes first
  have other := InsightQuery.passes second
  have window := other.window
  have metrics := other.metrics
  have groups := other.groups
  rw [same.time, own.window] at window
  rw [same.metrics, own.metrics] at metrics
  rw [same.groups, own.groups] at groups
  refine ⟨(Except.ok.inj window).symm, (Except.ok.inj metrics).symm, ?_,
    (Except.ok.inj groups).symm⟩
  have filters := same.filters
  have passed := checkAll_ok own.filters
  have passed' := checkAll_ok other.filters
  generalize q.filters = rs at filters passed
  generalize q'.filters = rs' at filters passed'
  generalize p.filters = fs at passed
  generalize p'.filters = fs' at passed'
  induction filters generalizing fs fs' with
  | nil =>
    cases passed
    cases passed'
    exact .nil
  | cons head _ ih =>
    cases passed with
    | cons planned rest =>
      cases passed' with
      | cons planned' rest' => exact .cons (head.planned planned planned') (ih _ rest _ rest')

end InsightQuery.SameButOperands

def SameForms (d : Dialect) (cs cs' : List Condition) : Prop :=
  List.Forall₂ (fun c c' => (c.render d).form = (c'.render d).form) cs cs'

theorem plain_form {f f' : PlannedFilter} {column : StoredColumn Column} {c c' : Condition}
    {d : Dialect} (same : f.SameButOperand f')
    (first : (Filter.compile f.type f.operator f.value column).map Condition.plain = .ok c)
    (second : (Filter.compile f'.type f'.operator f'.value column).map Condition.plain = .ok c') :
    (c.render d).form = (c'.render d).form := by
  obtain ⟨p, own, rfl⟩ := map_ok first
  obtain ⟨p', other, rfl⟩ := map_ok second
  rw [same.type, same.operator] at other
  exact Filter.compile_form same.long own other

structure Source.SameButInsight (d : Dialect) (s s' : Source) : Prop where
  others : s' = { s with scope := s'.scope }
  scope : SameForms d s.scope s'.scope
  filter : ∀ {f f' c c'}, f.SameButOperand f' → s.filter f = .ok c → s.filter f' = .ok c' →
    (c.render d).form = (c'.render d).form

namespace Internal

theorem filter_form {f f' : PlannedFilter} {c c' : Condition} {d : Dialect}
    (same : f.SameButOperand f') (first : Internal.filter f = .ok c)
    (second : Internal.filter f' = .ok c') : (c.render d).form = (c'.render d).form := by
  unfold Internal.filter at first second
  rw [same.field] at second
  split at first
  · cases first
  rename_i column known
  rw [known] at second
  exact plain_form same first second

theorem source_form (website website' : String) (d : Dialect) :
    (source website).SameButInsight d (source website') where
  others := rfl
  scope := .cons rfl .nil
  filter := filter_form

end Internal

namespace WideTable

theorem filter_form {t : WideTable} {f f' : PlannedFilter} {c c' : Condition} {d : Dialect}
    (same : f.SameButOperand f') (first : t.filter f = .ok c) (second : t.filter f' = .ok c') :
    (c.render d).form = (c'.render d).form := by
  unfold WideTable.filter at first second
  rw [same.field] at second
  split at first
  · cases first
  rename_i column known
  rw [known] at second
  exact plain_form same first second

end WideTable

namespace LongTable

theorem filter_form {t : LongTable} {f f' : PlannedFilter} {c c' : Condition} {d : Dialect}
    (same : f.SameButOperand f') (first : t.filter f = .ok c) (second : t.filter f' = .ok c') :
    (c.render d).form = (c'.render d).form := by
  unfold LongTable.filter at first second
  rw [same.field] at second
  split at first
  · rw [if_pos (by assumption)] at second
    exact plain_form same first second
  · rw [if_neg (by assumption)] at second
    obtain ⟨p, own, rfl⟩ := map_ok first
    obtain ⟨p', other, rfl⟩ := map_ok second
    rw [same.type, same.operator] at other
    have found : (p.render Column.render d).form = (p'.render Column.render d).form :=
      Filter.compile_form same.long own other
    exact Fragment.enclose_form (Fragment.append_form rfl (Fragment.enclose_form found _ _)) _ _

end LongTable

theorem Resolved.source_form {p p' : QueryPlan} (r : Resolved) (d : Dialect)
    (same : p.SameButOperands p') : (r.source p).SameButInsight d (r.source p') := by
  cases r with
  | internal => exact Internal.source_form p.insightId p'.insightId d
  | long table store =>
    refine ⟨?_, .nil, LongTable.filter_form⟩
    simp only [Resolved.source, same.groups, LongTable.source]
  | wide table store => exact ⟨rfl, .nil, WideTable.filter_form⟩

namespace Source

variable {s s' : Source} {p p' : QueryPlan} {d : Dialect}

theorem filters_form (alike : s.SameButInsight d s') {fs fs' : List PlannedFilter}
    {cs cs' : List Condition} (same : List.Forall₂ PlannedFilter.SameButOperand fs fs')
    (first : checkAll s.filter fs = .ok cs) (second : checkAll s.filter fs' = .ok cs') :
    SameForms d cs cs' := by
  have own := checkAll_ok first
  have other := checkAll_ok second
  clear first second
  induction same generalizing cs cs' with
  | nil =>
    cases own
    cases other
    exact .nil
  | cons head _ ih =>
    cases own with
    | cons made rest =>
      cases other with
      | cons made' rest' => exact .cons (alike.filter head made made') (ih rest rest')

theorem conditions_form (alike : s.SameButInsight d s') (same : p.SameButOperands p')
    {cs cs' : List Condition} (first : s.conditions p = .ok cs)
    (second : s'.conditions p' = .ok cs') : SameForms d cs cs' := by
  obtain ⟨event, filters, known, filtered, rfl⟩ := conditions_ok first
  obtain ⟨event', filters', known', filtered', rfl⟩ := conditions_ok second
  have event_eq : event' = event := by
    rw [alike.others] at known'
    unfold Source.eventCondition QueryPlan.countsEvery QueryPlan.eventNames at known known'
    rw [same.metrics] at known'
    exact Except.ok.inj (known'.symm.trans known)
  have range_eq : s'.dates.range p'.window = s.dates.range p.window := by
    rw [alike.others, same.window]
  rw [alike.others] at filtered'
  rw [event_eq, range_eq]
  exact List.rel_append alike.scope
    (.cons rfl (.cons rfl (filters_form alike same.filters filtered filtered')))

theorem groupColumns_congr (same : s'.groupColumn = s.groupColumn) :
    s'.groupColumns = s.groupColumns := by
  funext index groups selection
  induction groups generalizing index selection with
  | nil => rfl
  | cons g rest ih =>
    unfold groupColumns
    rw [same, ih]

theorem branch_form (alike : s.SameButInsight d s') (same : p.SameButOperands p')
    {selection : Selection} {b b' : Branch} (first : s.Makes p selection b)
    (second : s'.Makes p' selection b') : (b.render d).form = (b'.render d).form := by
  have confined := conditions_form alike same first.conditions second.conditions
  obtain ⟨label, relation, joins, metrics, groups, _⟩ := first
  obtain ⟨label', relation', joins', metrics', groups', _⟩ := second
  have read : s'.groupColumn = s.groupColumn := by rw [alike.others]
  rw [groupColumns_congr read, same.groups] at groups'
  rw [alike.others] at label' relation' joins' metrics'
  rw [same.window] at label'
  rw [same.metrics] at metrics'
  have label_eq : b'.label = b.label := label'.trans label.symm
  have relation_eq : b'.relation = b.relation := relation'.trans relation.symm
  have joins_eq : b'.joins = b.joins := joins'.trans joins.symm
  have metrics_eq : b'.metrics = b.metrics := Except.ok.inj (metrics'.symm.trans metrics)
  have groups_eq : b'.groups = b.groups := Except.ok.inj (groups'.symm.trans groups)
  have conditions : (Fragment.conjunction (b.conditions.map (Condition.render d))).form
      = (Fragment.conjunction (b'.conditions.map (Condition.render d))).form := by
    apply Fragment.conjunction_form
    rw [List.map_map, List.map_map]
    exact matched_map confined
  unfold Branch.render Branch.selected Branch.source Branch.groupPositions
  rw [label_eq, relation_eq, joins_eq, metrics_eq, groups_eq]
  exact Fragment.append_form rfl (Fragment.andThen_form conditions _)

theorem build_form (alike : s.SameButInsight d s') (same : p.SameButOperands p')
    {t t' : SeriesStatement} (first : s.build p = .ok t) (second : s'.build p' = .ok t') :
    (t.render d).form = (t'.render d).form := by
  have own := Source.built first
  have other := Source.built second
  rw [same.groups] at other
  have branches : (t.branches.map (Branch.render d)).map Fragment.form
      = (t'.branches.map (Branch.render d)).map Fragment.form := by
    rw [List.map_map, List.map_map]
    exact matched_map (matched_both own other (branch_form alike same))
  exact Fragment.andThen_form (Fragment.join_form " UNION ALL " branches) _

end Source

namespace Listing

/-- The key that a cursor stands for, if there is a cursor. -/
def position? (cursor : Option String) : Checked (Option Int) :=
  match cursor with
  | none => .ok none
  | some cursor => (Cursor.decode cursor).map some

theorem position_some {cursor : Option String} {after : Option Int}
    (placed : position? cursor = .ok after) : after.isSome = cursor.isSome := by
  unfold position? at placed
  split at placed
  · cases placed
    rfl
  · obtain ⟨key, _, rfl⟩ := map_ok placed
    rfl

end Listing

namespace EventListRequest

variable {r r' : EventListRequest} {limit limit' : Int} {l l' : Listing}

theorem filterCondition_form {f f' : RequestedFilter} {c c' : Condition} {d : Dialect}
    (same : f.SameButOperand f') (first : filterCondition f = .ok c)
    (second : filterCondition f' = .ok c') : (c.render d).form = (c'.render d).form := by
  unfold filterCondition at first second
  split at first
  · cases first
  rename_i planned passed
  split at second
  · cases second
  rename_i planned' passed'
  exact Internal.filter_form (same.planned passed passed') first second

theorem conditions_form (d : Dialect) (same : r.SameButOperands r')
    (first : r.listing limit = .ok l) (second : r'.listing limit' = .ok l') :
    SameForms d l.conditions l'.conditions := by
  unfold listing at first second
  have time_eq : r'.timeConditions = r.timeConditions := by
    unfold timeConditions
    rw [same.time]
  rw [time_eq] at second
  split at first
  · cases first
  rename_i time timed
  rw [timed] at second
  obtain ⟨filters, filtered, rfl⟩ := map_ok first
  obtain ⟨filters', filtered', rfl⟩ := map_ok second
  have own := checkAll_ok filtered
  have other := checkAll_ok filtered'
  have paired := same.filters
  have times : SameForms d time time := List.forall₂_same.mpr fun _ _ => rfl
  refine .cons rfl (List.rel_append times ?_)
  clear first second filtered filtered'
  generalize r.filters = rs at paired own
  generalize r'.filters = rs' at paired other
  induction paired generalizing filters filters' with
  | nil =>
    cases own
    cases other
    exact .nil
  | cons head _ ih =>
    cases own with
    | cons made rest =>
      cases other with
      | cons made' rest' => exact .cons (filterCondition_form head made made') (ih _ _ rest rest')

theorem listing_reads (same : r.SameButOperands r') (first : r.listing limit = .ok l)
    (second : r'.listing limit' = .ok l') :
    l'.relation = l.relation ∧ l'.columns = l.columns ∧ l'.key = l.key ∧ l'.order = l.order := by
  unfold listing at first second
  split at first
  · cases first
  split at second
  · cases second
  obtain ⟨_, _, rfl⟩ := map_ok first
  obtain ⟨_, _, rfl⟩ := map_ok second
  exact ⟨rfl, rfl, rfl, same.order⟩

theorem statement_form {after after' : Option Int} (d : Dialect) (same : r.SameButOperands r')
    (first : r.listing limit = .ok l) (second : r'.listing limit' = .ok l')
    (behind : after.isSome = after'.isSome) :
    (l.statement d after).form = (l'.statement d after').form := by
  obtain ⟨relation, columns, key, order⟩ := listing_reads same first second
  have filter : (l.filter d).form = (l'.filter d).form := by
    refine Fragment.conjunction_form ?_
    rw [List.map_map, List.map_map]
    exact matched_map (conditions_form d same first second)
  unfold Listing.statement Listing.behind
  rw [relation, columns, key, order]
  refine Fragment.append_form (Fragment.append_form rfl (Fragment.conjunction_form ?_)) rfl
  rw [List.map_cons, List.map_cons, filter]
  cases after with
  | none =>
    cases after' with
    | none => rfl
    | some _ => cases behind
  | some _ =>
    cases after' with
    | none => cases behind
    | some _ => rfl

end EventListRequest

theorem InsightQuery.SameButOperands.resolved {q q' : InsightQuery} (same : q.SameButOperands q')
    (canOpen : String → Bool) (r : Registry) :
    r.resolve canOpen q'.insightId q'.insightType = r.resolve canOpen q.insightId q.insightType := by
  rw [same.type]
  by_cases own : q.insightType = .internal
  · unfold Registry.resolve
    rw [if_pos own, if_pos own]
  · rw [same.id own]

namespace Engine

variable {w : World} {e e' : Engine} {q : InsightQuery} {t : WrittenStatement}

theorem prepare_dialect (w : World) (e : Engine) (q : InsightQuery) :
    (e.prepare w q).2.dialect = e.dialect := by
  have located : (e.locate w q).2.dialect = e.dialect := by
    unfold locate
    split <;> rfl
  unfold prepare
  split <;> (rename_i found; rw [found] at located; exact located)

theorem translate_ok (done : e.translate w q = (.ok t, e')) : ∃ prepared,
    e.prepare w q = (.ok prepared, e') ∧ t.dialect = prepared.resolved.dialect e.dialect ∧
      t.statement.form = (t.dialect.numberPlaceholders (prepared.statement.render t.dialect).form.1,
        (prepared.statement.render t.dialect).form.2) := by
  unfold translate at done
  split at done
  · cases done
  · rename_i prepared e'' made
    have kept := prepare_dialect w e q
    rw [made] at kept
    cases done
    exact ⟨prepared, made, congrArg prepared.resolved.dialect kept, rfl⟩

theorem translate_form {q' : InsightQuery} {t' : WrittenStatement} {e'' : Engine}
    (same : q.SameButOperands q') (first : e.translate w q = (.ok t, e'))
    (second : e.translate w q' = (.ok t', e'')) :
    t'.dialect = t.dialect ∧ t'.statement.form = t.statement.form := by
  obtain ⟨own, made, spoken, written⟩ := translate_ok first
  obtain ⟨other, made', spoken', written'⟩ := translate_ok second
  obtain ⟨planned, found, built⟩ := prepare_ok made
  obtain ⟨planned', found', built'⟩ := prepare_ok made'
  have passes := InsightQuery.passes planned
  have passes' := InsightQuery.passes planned'
  have resolved : other.resolved = own.resolved := by
    rw [passes'.id, passes'.type, same.resolved, ← passes.id, ← passes.type, found] at found'
    exact (Except.ok.inj found').symm
  have dialect : t'.dialect = t.dialect := by rw [spoken', spoken, resolved]
  rw [resolved] at built'
  have plans := same.planned planned planned'
  have form := Source.build_form (d := t.dialect) (own.resolved.source_form t.dialect plans) plans
    built built'
  refine ⟨dialect, ?_⟩
  rw [written', written, dialect, form]

end Engine

/-- No operand is written: requests that differ in operands of one length, in the insight of the
service's own events and, for listings, in the limit and the place of the cursor have statements of
one text, whose parameters are of the same kinds. -/
theorem operands_unwritten :
    (∀ {q q' : InsightQuery} {limit limit' : Nat} {p p' : QueryPlan} {r : Resolved}
      {s s' : SeriesStatement}, q.SameButOperands q' →
        q.plan limit = .ok p → (r.source p).build p = .ok s →
        q'.plan limit' = .ok p' → (r.source p').build p' = .ok s' →
          ∀ d : Dialect, (s'.render d).form = (s.render d).form) ∧
    (∀ {w : World} {e e' e'' : Engine} {q q' : InsightQuery} {t t' : WrittenStatement},
      q.SameButOperands q' →
        e.translate w q = (.ok t, e') → e.translate w q' = (.ok t', e'') →
          t'.dialect = t.dialect ∧ t'.statement.form = t.statement.form) ∧
    (∀ {r r' : EventListRequest} {limit limit' : Int} {l l' : Listing} {after after' : Option Int},
      r.SameButOperands r' →
        r.listing limit = .ok l → Listing.position? r.cursor = .ok after →
        r'.listing limit' = .ok l' → Listing.position? r'.cursor = .ok after' →
          ∀ d : Dialect, (l'.statement d after').form = (l.statement d after).form) := by
  refine ⟨?_, Engine.translate_form, ?_⟩
  · intro q q' limit limit' p p' r s s' same planned built planned' built' d
    have plans := same.planned planned planned'
    exact (Source.build_form (r.source_form d plans) plans built built').symm
  · intro r r' limit limit' l l' after after' same listed placed listed' placed' d
    have behind : after.isSome = after'.isSome := by
      rw [Listing.position_some placed, Listing.position_some placed', same.cursor]
    exact (EventListRequest.statement_form d same listed listed' behind).symm

def sampleListRequest (website country : String) (after : Int) : EventListRequest :=
  ⟨website, [⟨"country", .string, "eq", .text country⟩], none, some (Cursor.encode after),
    .ascending, none⟩

theorem exists_translated (w : World) (e : Engine) (q : InsightQuery)
    (done : (e.translate w q).1.toOption.isSome = true) :
    ∃ t e', e.translate w q = (.ok t, e') := by
  cases made : e.translate w q with
  | mk answer e' =>
    rw [made] at done
    cases answer with
    | error fault => cases done
    | ok t => exact ⟨t, e', rfl⟩

theorem exists_listed (r : EventListRequest) (limit : Int)
    (listed : ((r.listing limit).toOption.isSome
      && (Listing.position? r.cursor).toOption.isSome) = true) :
    ∃ l after, r.listing limit = .ok l ∧ Listing.position? r.cursor = .ok after := by
  cases made : r.listing limit with
  | error fault =>
    rw [made] at listed
    cases listed
  | ok l =>
    rw [made] at listed
    cases placed : Listing.position? r.cursor with
    | error fault =>
      rw [placed] at listed
      cases listed
    | ok after => exact ⟨l, after, rfl, rfl⟩

theorem operands_unwritten_sample :
    let other := { sampleRequest with
      insightId := "elsewhere"
      filters := [⟨"country", .string, "in", .array [.text "?'; --", .text "%"]⟩] }
    let elsewhere := { sampleWideRequest with
      filters := [⟨"system", .string, "eq", .text "\"system\" OR 1"⟩] }
    (∃ p p' s s', sampleWideRequest.plan 10 = .ok p ∧
      ((Resolved.wide sampleShop .memory).source p).build p = .ok s ∧
      elsewhere.plan 10 = .ok p' ∧
      ((Resolved.wide sampleShop .memory).source p').build p' = .ok s' ∧
        (s'.render .postgres).form = (s.render .postgres).form) ∧
    (∃ t t' e' e'', sampleEngine.translate (sampleWorld ⟨sampleColumns, []⟩) sampleRequest
        = (.ok t, e') ∧
      sampleEngine.translate (sampleWorld ⟨sampleColumns, []⟩) other = (.ok t', e'') ∧
        t'.statement.form = t.statement.form) ∧
    (∃ l l' after after', (sampleListRequest "site" "AT" 7).listing 10 = .ok l ∧
      Listing.position? (sampleListRequest "site" "AT" 7).cursor = .ok after ∧
      (sampleListRequest "elsewhere" "it's ?" 12).listing 20 = .ok l' ∧
      Listing.position? (sampleListRequest "elsewhere" "it's ?" 12).cursor = .ok after' ∧
        (l'.statement .sqlite after').form = (l.statement .sqlite after).form) := by
  intro other elsewhere
  refine ⟨?_, ?_, ?_⟩
  · have same : sampleWideRequest.SameButOperands elsewhere :=
      ⟨rfl, fun _ => rfl, rfl, rfl, .cons ⟨rfl, rfl, rfl, fun _ _ _ _ _ same => by cases same⟩ .nil,
        rfl⟩
    obtain ⟨p, s, planned, built⟩ := exists_built (q := sampleWideRequest)
      (r := .wide sampleShop .memory) (by decide +kernel)
    obtain ⟨p', s', planned', built'⟩ := exists_built (q := elsewhere)
      (r := .wide sampleShop .memory) (by decide +kernel)
    exact ⟨p, p', s, s', planned, built, planned', built',
      operands_unwritten.1 same planned built planned' built' .postgres⟩
  · have same : sampleRequest.SameButOperands other := by
      refine ⟨rfl, fun external => absurd rfl external, rfl, rfl, .cons ⟨rfl, rfl, rfl, ?_⟩ .nil, rfl⟩
      intro _ _ _ items others listed listed'
      cases listed
      cases listed'
      rfl
    obtain ⟨t, e', done⟩ := exists_translated (sampleWorld ⟨sampleColumns, []⟩) sampleEngine
      sampleRequest (by decide +kernel)
    obtain ⟨t', e'', done'⟩ := exists_translated (sampleWorld ⟨sampleColumns, []⟩) sampleEngine
      other (by decide +kernel)
    exact ⟨t, t', e', e'', done, done', (operands_unwritten.2.1 same done done').2⟩
  · have same : (sampleListRequest "site" "AT" 7).SameButOperands
        (sampleListRequest "elsewhere" "it's ?" 12) :=
      ⟨.cons ⟨rfl, rfl, rfl, fun _ _ _ _ _ same => by cases same⟩ .nil, rfl, rfl, rfl⟩
    obtain ⟨l, after, listed, placed⟩ := exists_listed (sampleListRequest "site" "AT" 7) 10
      (by decide +kernel)
    obtain ⟨l', after', listed', placed'⟩ := exists_listed
      (sampleListRequest "elsewhere" "it's ?" 12) 20 (by decide +kernel)
    exact ⟨l, l', after, after', listed, placed, listed', placed',
      operands_unwritten.2.2 same listed placed listed' placed' .sqlite⟩

end Analytics
