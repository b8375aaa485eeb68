import Analytics.Proofs.Number.Proper
import Analytics.Proofs.Series.Titles
import Mathlib.Data.List.Perm.Basic

/-!
Tallies. At a date and a combination an answer has at most one result row, in the branch that pins the
combination's buckets, and the row shows the counts of all metrics.
-/

namespace Analytics

theorem filterMap_single {α β : Type} {as : List α} (once : as.Nodup) {f : α → Option β} {a : α}
    (others : ∀ c ∈ as, c ≠ a → f c = none) (absent : a ∉ as → f a = none) :
    as.filterMap f = (f a).toList := by
  induction as with
  | nil => rw [absent List.not_mem_nil, List.filterMap_nil, Option.toList_none]
  | cons c rest ih =>
    obtain ⟨fresh, once⟩ := List.nodup_cons.mp once
    have later : ∀ d ∈ rest, d ≠ a → f d = none := fun d member =>
      others d (List.mem_cons_of_mem c member)
    by_cases here : c = a
    · subst here
      have none : rest.filterMap f = [] := List.filterMap_eq_nil_iff.mpr fun d member =>
        later d member fun same => fresh (same ▸ member)
      cases found : f c <;> simp [found, none]
    · rw [List.filterMap_cons_none (others c List.mem_cons_self here)]
      exact ih once later fun outside => absent fun member =>
        (List.mem_cons.mp member).elim (fun same => here same.symm) outside

theorem flatMap_single {α β γ : Type} {R : α → β → Prop} {as : List α} {bs : List β}
    (matched : List.Forall₂ R as bs) (once : as.Nodup) {f : β → List γ} {T : List γ → Prop} {a : α}
    (others : ∀ c ∈ as, ∀ b, R c b → c ≠ a → f b = []) (own : ∀ b, a ∈ as → R a b → T (f b))
    (absent : a ∉ as → T []) : T (bs.flatMap f) := by
  induction matched with
  | nil => exact absent List.not_mem_nil
  | @cons c b rest later first matched ih =>
    obtain ⟨fresh, once⟩ := List.nodup_cons.mp once
    have tail : ∀ d ∈ rest, ∀ b, R d b → d ≠ a → f b = [] := fun d member =>
      others d (List.mem_cons_of_mem c member)
    rw [List.flatMap_cons]
    by_cases here : c = a
    · subst here
      have none : later.flatMap f = [] := List.flatMap_eq_nil_iff.mpr fun b member => by
        obtain ⟨d, among, made⟩ := matched_right matched member
        exact tail d among b made fun same => fresh (same ▸ among)
      rw [none, List.append_nil]
      exact own b List.mem_cons_self first
    · rw [others c List.mem_cons_self b first here, List.nil_append]
      refine ih once tail (fun b member => own b (List.mem_cons_of_mem c member)) fun outside => ?_
      exact absent fun member => (List.mem_cons.mp member).elim (fun same => here same.symm) outside

namespace QueryPlan

/-- A result row with its date, where it counts at a date and in a combination. -/
def placed? (p : QueryPlan) (date : String) (key : List GroupValue) (row : ResultRow) :
    Option DatedRow :=
  (p.datedRow? row).filter fun r => r.combinations.contains key && r.date = date

theorem placed_iff {p : QueryPlan} {date : String} {key : List GroupValue} {row : ResultRow}
    {r : DatedRow} : p.placed? date key row = some r ↔
      p.datedRow? row = some r ∧ key ∈ r.combinations ∧ r.date = date := by
  unfold placed?
  rw [Option.filter_eq_some_iff, Bool.and_eq_true, List.contains_iff_mem, decide_eq_true_eq]

end QueryPlan

namespace Source

variable {s : Source} {p : QueryPlan} {selection : Selection} {b : Branch} {date : String}
  {key : List GroupValue} {v first : RowView Column} {views : List (RowView Column)}

theorem label_cases (l : BucketLabel Column) (v : RowView Column) :
    l.eval v = .null ∨ ∃ text, l.eval v = .text text := by
  unfold BucketLabel.eval Clock.label Clock.ofOption
  split
  · exact Or.inr ⟨_, rfl⟩
  · exact Or.inl rfl

/-- A result row counts at a date and in a combination if the branch pins its buckets and the row it
stands for has the date's label and the combination's values. -/
theorem placed_row (made : s.Makes p selection b) (chosen : selection ∈ branchSelections p.groups)
    (told : p.IsTold) (clear : s.isClear 0 first p.groups = true) {r : DatedRow} :
    p.placed? date key (b.resultRow first views) = some r ↔
      (key.map (·.choice) = selection ∧ s.isAt p date key first = true) ∧
        r = ⟨date, b.resultRow first views,
          combinations (p.groups.map (GroupPlan.valuesOf (b.resultRow first views)))⟩ := by
  have values := mem_combinationsOf made.groups (mem_combinations.mp chosen)
    (Branch.resultRow_shows first views made told) clear key
  rw [QueryPlan.placed_iff, QueryPlan.datedRow?, Branch.resultRow_date first views made told,
    made.label]
  unfold isAt
  rcases label_cases (s.dates.label p.window) first with none | ⟨text, labelled⟩
  · rw [none]
    simp [Cell.toJson, ResultValue.label?]
  · rw [labelled]
    simp only [Cell.toJson, ResultValue.label?, Option.map_some, Option.some.injEq,
      Bool.and_eq_true, decide_eq_true_eq, Cell.text.injEq]
    constructor
    · rintro ⟨rfl, inside, rfl⟩
      obtain ⟨pinned, has⟩ := values.mp inside
      exact ⟨⟨pinned, rfl, has⟩, rfl⟩
    · rintro ⟨⟨pinned, rfl, has⟩, rfl⟩
      exact ⟨rfl, values.mpr ⟨pinned, has⟩, rfl⟩

theorem groupKey_iff (made : s.Makes p selection b) (chosen : selection ∈ branchSelections p.groups)
    (clear : s.isClear 0 v p.groups = true) (pinned : key.map (·.choice) = selection) :
    b.groupKey v = .text date :: key.map (·.cell) ↔ s.isAt p date key v = true := by
  change b.label.eval v :: GroupColumn.groupedCells b.groups v = _ ↔ _
  rw [List.cons.injEq, grouped_iff made.groups (mem_combinations.mp chosen) clear pinned, made.label]
  unfold isAt
  rw [Bool.and_eq_true, decide_eq_true_eq]

theorem groupKey_exact (made : s.Makes p selection b)
    (chosen : selection ∈ branchSelections p.groups) (clear : s.isClear 0 v p.groups = true) :
    ∀ c ∈ b.groupKey v, c.isExact = true := by
  refine List.forall_mem_cons.mpr
    ⟨?_, grouped_exact made.groups (mem_combinations.mp chosen) clear⟩
  rcases label_cases b.label v with none | ⟨text, labelled⟩
  · rw [none]
    rfl
  · rw [labelled]
    rfl

theorem answer_keys (b : Branch) {views : List (RowView Column)}
    (told : KeysTold (views.map fun v => (b.groupKey v, v))) :
    ∃ ks : List (List Cell), ks.Pairwise (fun k l => keyLe k l = true) ∧ ks.Nodup ∧
      (∀ k, k ∈ ks ↔ ∃ v ∈ views, b.groupKey v = k) ∧
      (b.answerOf views).map (·.2) = ks.filterMap fun k =>
        (views.filter fun v => b.groupKey v = k).head?.map fun first =>
          b.resultRow first (views.filter fun v => b.groupKey v = k) := by
  obtain ⟨ks, sorted, once, keys, groups⟩ := gathered_sorted _ told
  refine ⟨ks, sorted, once, fun k => ?_, ?_⟩
  · rw [keys k, List.map_map]
    exact List.mem_map
  · unfold Branch.answerOf
    rw [groups, List.filterMap_map, List.map_filterMap]
    refine List.filterMap_congr fun k _ => ?_
    dsimp only [Function.comp_apply]
    rw [keyed_rows b.groupKey, Option.map_map]
    rfl

theorem exact_told (b : Branch) {views : List (RowView Column)}
    (exact : ∀ v ∈ views, ∀ c ∈ b.groupKey v, c.isExact = true) :
    KeysTold (views.map fun v => (b.groupKey v, v)) := by
  apply keysTold_iff.mpr
  intro v member v' among
  exact exact_keys (exact v member) (exact v' among)

theorem head_of_key {b : Branch} {k : List Cell}
    (found : (views.filter fun v => b.groupKey v = k).head? = some first) :
    first ∈ views ∧ b.groupKey first = k := by
  have member := List.mem_filter.mp (List.mem_of_mem_head? found)
  exact ⟨member.1, of_decide_eq_true member.2⟩

theorem answer_unpinned (made : s.Makes p selection b)
    (chosen : selection ∈ branchSelections p.groups) (told : p.IsTold)
    (clear : ∀ v ∈ views, s.isClear 0 v p.groups = true) (unpinned : key.map (·.choice) ≠ selection) :
    ((b.answerOf views).map (·.2)).filterMap (p.placed? date key) = [] := by
  obtain ⟨ks, _, _, _, answered⟩ := answer_keys b
    (exact_told b fun v member => groupKey_exact made chosen (clear v member))
  rw [answered, List.filterMap_filterMap, List.filterMap_eq_nil_iff]
  intro k _
  cases found : (views.filter fun v => b.groupKey v = k).head? with
  | none => rfl
  | some first =>
    rw [Option.map_some, Option.bind_some, Option.eq_none_iff_forall_ne_some]
    intro r counted
    have member := (head_of_key found).1
    exact unpinned ((placed_row made chosen told (clear first member)).mp counted).1.1

/-- Where a branch pins the buckets of a combination, one of its result rows counts at a date, if some
row of the branch is there, and it stands for all that are. -/
theorem answer_pinned (made : s.Makes p selection b) (chosen : selection ∈ branchSelections p.groups)
    (told : p.IsTold) (clear : ∀ v ∈ views, s.isClear 0 v p.groups = true)
    (pinned : key.map (·.choice) = selection) :
    ((b.answerOf views).map (·.2)).filterMap (p.placed? date key) =
      ((views.filter (s.isAt p date key)).head?.bind fun first => p.placed? date key
        (b.resultRow first (views.filter (s.isAt p date key)))).toList := by
  obtain ⟨ks, _, distinct, keys, answered⟩ := answer_keys b
    (exact_told b fun v member => groupKey_exact made chosen (clear v member))
  have same : (views.filter fun v => b.groupKey v = .text date :: key.map (·.cell))
      = views.filter (s.isAt p date key) := by
    apply List.filter_congr
    intro v member
    rw [Bool.eq_iff_iff, decide_eq_true_eq]
    exact groupKey_iff made chosen (clear v member) pinned
  rw [answered, List.filterMap_filterMap,
    filterMap_single (a := .text date :: key.map (·.cell)) distinct, same]
  · cases (views.filter (s.isAt p date key)).head? <;> rfl
  · intro k _ other
    cases found : (views.filter fun v => b.groupKey v = k).head? with
    | none => rfl
    | some first =>
      obtain ⟨member, own⟩ := head_of_key found
      rw [Option.map_some, Option.bind_some, Option.eq_none_iff_forall_ne_some]
      intro r counted
      have here := ((placed_row made chosen told (clear first member)).mp counted).1.2
      exact other (own.symm.trans ((groupKey_iff made chosen (clear first member) pinned).mpr here))
  · intro outside
    cases found : (views.filter fun v =>
        b.groupKey v = .text date :: key.map (·.cell)).head? with
    | none => rfl
    | some first =>
      obtain ⟨member, own⟩ := head_of_key found
      exact absurd ((keys _).mpr ⟨first, member, own⟩) outside

end Source

/-- The result rows that count at a date and in a combination: none where nothing is counted there, or
one that shows all counts. -/
inductive Tally (p : QueryPlan) (counts : PlannedMetric → Nat) : List DatedRow → Prop
  | none (zero : ∀ m ∈ p.metrics, counts m = 0) : Tally p counts []
  | one (r : DatedRow) (shown : ∀ m ∈ p.metrics,
      ResultValue.number (ResultRow.cell r.row m.title.text) = .ofInt (counts m)) :
    Tally p counts [r]

namespace Tally

variable {p : QueryPlan} {counts : PlannedMetric → Nat} {rows : List DatedRow} {m : PlannedMetric}

theorem perm {others : List DatedRow} (tally : Tally p counts rows) (same : others.Perm rows) :
    Tally p counts others := by
  cases tally with
  | none zero =>
    rw [same.eq_nil]
    exact .none zero
  | one r shown =>
    rw [List.perm_singleton.mp same]
    exact .one r shown

theorem sum (tally : Tally p counts rows) (member : m ∈ p.metrics) :
    rows.foldl (fun (sum : Binary64) r =>
        sum.add (ResultValue.number (ResultRow.cell r.row m.title.text))) .zero
      = .ofInt (counts m) := by
  cases tally with
  | none zero =>
    rw [zero m member]
    rfl
  | one r shown =>
    rw [List.foldl_cons, List.foldl_nil, shown m member, Binary64.zero_add_ofInt]

theorem some (tally : Tally p counts rows) (member : m ∈ p.metrics) (counted : counts m ≠ 0) :
    ∃ r, r ∈ rows := by
  cases tally with
  | none zero => exact absurd (zero m member) counted
  | one r shown => exact ⟨r, List.mem_cons_self⟩

end Tally

namespace Source

variable {s : Source} {p : QueryPlan} {selection : Selection} {b : Branch} {date : String}
  {key : List GroupValue} {db : Database} {t : Table} {m : PlannedMetric}

theorem countOf_nil (s : Source) (m : PlannedMetric) : s.countOf m [] = 0 := by
  unfold countOf
  split
  · rfl
  split <;> rfl

theorem rows_counted {cs : List Condition} (made : s.conditions p = .ok cs) (member : m ∈ p.metrics)
    (views : List (RowView Column)) :
    ((views.filter (Condition.allHold cs)).filter (s.isAt p date key)).filter (s.counts m)
      = (views.filter (s.selects p)).filter fun v => s.counts m v && s.isAt p date key v := by
  rw [List.filter_filter, List.filter_filter, List.filter_filter]
  apply List.filter_congr
  intro v _
  have same := conditions_counts made member v
  cases s.isAt p date key v with
  | false => simp
  | true =>
    simp only [Bool.and_true]
    rw [Bool.and_comm, same, Bool.and_comm]

/-- Whether every row of a table has clear cells in the columns of raw groups. -/
def isClearIn (s : Source) (p : QueryPlan) (t : Table) : Bool :=
  t.rows.all fun row => s.isClear 0 (t.view s.relation.name row) p.groups

theorem branch_views (rowwise : s.IsRowwise) (made : s.Makes p selection b)
    (found : db.table? s.relation.table.text = some t) (clear : s.isClearIn p t = true) :
    b.views db = (t.rows.map (t.view s.relation.name)).filter (Condition.allHold b.conditions) ∧
      ∀ v ∈ b.views db, s.isClear 0 v p.groups = true := by
  have views : b.views db
      = (t.rows.map (t.view s.relation.name)).filter (Condition.allHold b.conditions) := by
    rw [← made.relation] at found ⊢
    exact Branch.views_single (rowwise.single made) found
  refine ⟨views, ?_⟩
  rw [views]
  intro v member
  obtain ⟨row, among, rfl⟩ := List.mem_map.mp (List.mem_filter.mp member).1
  exact List.all_eq_true.mp clear row among

theorem branch_tally (rowwise : s.IsRowwise) (made : s.Makes p selection b)
    (chosen : selection ∈ branchSelections p.groups) (once : p.columnNames.Nodup)
    (found : db.table? s.relation.table.text = some t) (clear : s.isClearIn p t = true)
    (pinned : key.map (·.choice) = selection) :
    Tally p (fun m => s.count p t m key date)
      (((b.answer db).map (·.2)).filterMap (p.placed? date key)) := by
  have told := QueryPlan.isTold_of_nodup once
  obtain ⟨views, clearViews⟩ := branch_views rowwise made found clear
  have counted (m : PlannedMetric) (member : m ∈ p.metrics) : s.count p t m key date
      = s.countOf m (((b.views db).filter (s.isAt p date key)).filter (s.counts m)) := by
    rw [views, rows_counted made.conditions member]
    rfl
  rw [Branch.answer_views, answer_pinned made chosen told clearViews pinned]
  cases here : (b.views db).filter (s.isAt p date key) with
  | nil =>
    apply Tally.none
    intro m member
    rw [counted m member, here]
    exact s.countOf_nil m
  | cons first rest =>
    have member := List.mem_filter.mp (here ▸ List.mem_cons_self : first ∈ (b.views db).filter _)
    rw [List.head?_cons, Option.bind_some, (placed_row made chosen told
      (clearViews first member.1)).mpr ⟨⟨pinned, member.2⟩, rfl⟩]
    apply Tally.one
    intro m member
    obtain ⟨c, among, own⟩ := matched_right (checkAll_ok made.metrics).flip member
    have shown := Branch.resultRow_metric first (first :: rest) (made.columnNames ▸ once)
      among
    rw [(metric_ok own).2.2] at shown
    rw [shown, counted m member, here, ← eval_countOf rowwise own]
    rfl

theorem statement_tally {statement : SeriesStatement} (rowwise : s.IsRowwise)
    (built : s.build p = .ok statement) (once : p.columnNames.Nodup)
    (found : db.table? s.relation.table.text = some t) (clear : s.isClearIn p t = true) :
    Tally p (fun m => s.count p t m key date)
      (((statement.branches.flatMap (Branch.answer db)).map (·.2)).filterMap
        (p.placed? date key)) := by
  rw [List.map_flatMap, List.filterMap_flatMap]
  refine flatMap_single (Source.built built) (branchSelections_nodup p.groups)
    (a := key.map (·.choice)) ?_ ?_ ?_
  · intro selection chosen b made other
    obtain ⟨_, clearViews⟩ := branch_views rowwise made found clear
    rw [Branch.answer_views, answer_unpinned made chosen (QueryPlan.isTold_of_nodup once) clearViews
      (Ne.symm other)]
  · intro b chosen made
    exact branch_tally rowwise made chosen once found clear rfl
  · intro outside
    apply Tally.none
    intro m _
    have none : (s.selected p t).filter (fun v => s.counts m v && s.isAt p date key v) = [] := by
      apply List.filter_eq_nil_iff.mpr
      intro v _ here
      have has := (Bool.and_eq_true_iff.mp (Bool.and_eq_true_iff.mp here).2).2
      exact outside (mem_combinations.mpr (chosen_of_hasValues has))
    unfold count
    rw [none]
    exact s.countOf_nil m

end Source

end Analytics
