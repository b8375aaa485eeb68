import Analytics.Proofs.Series.Points
import Analytics.Proofs.Series.Shapes
import Analytics.Series.Ledger

/-!
Ledgers that hold rows. A row is posted once for each combination that it selects; after every posting an
entry tells, for each metric and date, the sum of what was posted to it so far. Main statement: a ledger
that has read some rows makes the same series as looking at all of the rows for each point.
-/

namespace Analytics

namespace DateSums

theorem sumAt_add (date other : String) (x : Binary64) (sums : DateSums) :
    sumAt (add date x sums) other
      = if other = date then (sumAt sums other).add x else sumAt sums other := by
  unfold sumAt
  induction sums with
  | nil =>
    unfold add
    split_ifs with same
    · rw [same, List.lookup_cons_self]
      rfl
    · rw [List.lookup_cons, beq_false_of_ne same]
  | cons entry rest ih =>
    obtain ⟨d, sum⟩ := entry
    unfold add
    by_cases here : date = d
    · rw [if_pos here, ← here]
      split_ifs with same
      · rw [same, List.lookup_cons_self, List.lookup_cons_self]
        rfl
      · rw [List.lookup_cons, List.lookup_cons, beq_false_of_ne same]
    · rw [if_neg here, List.lookup_cons, List.lookup_cons]
      by_cases same : other = d
      · have apart : other ≠ date := fun equal => here (equal.symm.trans same)
        rw [if_neg apart, same, BEq.rfl]
      · rw [beq_false_of_ne same]
        exact ih

end DateSums

/-- A row under one of the combinations that it selects. -/
structure Posting where
  date : String
  row : ResultRow
  key : List GroupValue

namespace QueryPlan

variable {p : QueryPlan}

def postedAt (ps : List Posting) (m : PlannedMetric) (key : List GroupValue) (date : String) :
    List Binary64 :=
  (ps.filter fun q => q.key = key ∧ q.date = date).map fun q =>
    ResultValue.number (ResultRow.cell q.row m.title.text)

def withLabels (p : QueryPlan) (key : List GroupValue) : List (GroupValue × String) :=
  key.zip (List.zipWith GroupPlan.valueLabel p.groups key)

def postings (p : QueryPlan) (row : ResultRow) : List Posting :=
  match ResultRow.date? row with
  | none => []
  | some date => (combinations (p.groups.map (GroupPlan.valuesOf row))).map (⟨date, row, ·⟩)

end QueryPlan

namespace LedgerEntry

variable {p : QueryPlan} {fresh e : LedgerEntry} {f : LedgerEntry → LedgerEntry}
  {entries : List LedgerEntry} {ps : List Posting} {q : Posting}

theorem change_keys (fresh : LedgerEntry) (f : LedgerEntry → LedgerEntry) (entries : List LedgerEntry)
    (keeps : ∀ e : LedgerEntry, (f e).key = e.key) :
    (change fresh f entries).map (·.key)
      = insertSorted GroupValue.combinationBefore fresh.key (entries.map (·.key)) := by
  induction entries with
  | nil => simp [change, insertSorted, keeps]
  | cons e rest ih =>
    unfold change
    rw [List.map_cons, insertSorted]
    split_ifs
    · rw [List.map_cons, keeps]
    · rw [List.map_cons, List.map_cons, keeps]
    · rw [List.map_cons, ih]

theorem mem_change (sorted : (entries.map (·.key)).Pairwise fun k l =>
      GroupValue.combinationBefore k l = true) (member : e ∈ change fresh f entries) :
    (e ∈ entries ∧ e.key ≠ fresh.key) ∨ (∃ e₀ ∈ entries, e₀.key = fresh.key ∧ e = f e₀) ∨
      (fresh.key ∉ entries.map (·.key) ∧ e = f fresh) := by
  induction entries with
  | nil => exact .inr (.inr ⟨List.not_mem_nil, List.mem_singleton.mp member⟩)
  | cons first rest ih =>
    rw [List.map_cons, List.pairwise_cons] at sorted
    obtain ⟨ahead, later⟩ := sorted
    have behind {e : LedgerEntry} (inside : e ∈ rest) :
        GroupValue.combinationBefore first.key e.key = true :=
      ahead e.key (List.mem_map_of_mem inside)
    unfold change at member
    split at member
    · rename_i same
      rcases List.mem_cons.mp member with rfl | inside
      · exact .inr (.inl ⟨first, List.mem_cons_self, same.symm, rfl⟩)
      · refine .inl ⟨List.mem_cons_of_mem first inside, fun again => ?_⟩
        have own := behind inside
        rw [again, same, GroupValue.combination_strict.irreflexive] at own
        cases own
    rename_i other
    split at member
    · rename_i before
      -- Entries stand in order, so a key before the first one is nowhere among them.
      have absent : fresh.key ∉ (first :: rest).map (·.key) := by
        rw [List.map_cons, List.mem_cons, not_or]
        refine ⟨other, fun inside => ?_⟩
        have own := GroupValue.combination_strict.transitive before (ahead fresh.key inside)
        rw [GroupValue.combination_strict.irreflexive] at own
        cases own
      rcases List.mem_cons.mp member with rfl | inside
      · exact .inr (.inr ⟨absent, rfl⟩)
      · exact .inl ⟨inside, fun same => absent (same ▸ List.mem_map_of_mem inside)⟩
    · rcases List.mem_cons.mp member with rfl | inside
      · exact .inl ⟨List.mem_cons_self, fun same => other same.symm⟩
      · rcases ih later inside with ⟨kept, apart⟩ | ⟨e₀, known, same, rfl⟩ | ⟨absent, rfl⟩
        · exact .inl ⟨List.mem_cons_of_mem first kept, apart⟩
        · exact .inr (.inl ⟨e₀, List.mem_cons_of_mem first known, same, rfl⟩)
        · refine .inr (.inr ⟨?_, rfl⟩)
          rw [List.map_cons, List.mem_cons, not_or]
          exact ⟨other, absent⟩

/-- That an entry has the labels of its combination, and the sums of what was posted to it. -/
structure Tells (p : QueryPlan) (ps : List Posting) (e : LedgerEntry) : Prop where
  labels : e.labels = List.zipWith GroupPlan.valueLabel p.groups e.key
  sums : ∀ {index : Nat} {m : PlannedMetric}, p.metrics[index]? = some m → ∃ sums,
    e.sums[index]? = some sums ∧ ∀ date, DateSums.sumAt sums date
      = (QueryPlan.postedAt ps m e.key date).foldl Binary64.add .zero

theorem blank_key (p : QueryPlan) {key : List GroupValue} (long : key.length = p.groups.length) :
    (blank p (p.withLabels key)).key = key := by
  have labels : (List.zipWith GroupPlan.valueLabel p.groups key).length = key.length := by
    rw [List.length_zipWith, long, Nat.min_self]
  exact List.map_fst_zip labels.ge

theorem blank_tells {key : List GroupValue} (long : key.length = p.groups.length)
    (unposted : ∀ q ∈ ps, q.key ≠ key) : (blank p (p.withLabels key)).Tells p ps := by
  have labels : (List.zipWith GroupPlan.valueLabel p.groups key).length = key.length := by
    rw [List.length_zipWith, long, Nat.min_self]
  constructor
  · rw [blank_key p long]
    exact List.map_snd_zip labels.le
  · intro index m here
    refine ⟨[], ?_, fun date => ?_⟩
    · rw [blank, List.getElem?_map, here]
      rfl
    · have none : QueryPlan.postedAt ps m key date = [] := by
        rw [QueryPlan.postedAt, List.map_eq_nil_iff, List.filter_eq_nil_iff]
        intro q member counted
        exact unposted q member (of_decide_eq_true counted).1
      rw [blank_key p long, none]
      rfl

theorem postedAt_concat (m : PlannedMetric) (key : List GroupValue) (date : String) :
    QueryPlan.postedAt (ps ++ [q]) m key date = QueryPlan.postedAt ps m key date ++
      if q.key = key ∧ q.date = date then [ResultValue.number (ResultRow.cell q.row m.title.text)]
      else [] := by
  unfold QueryPlan.postedAt
  rw [List.filter_append, List.map_append, List.filter_singleton]
  split_ifs with counted
  · rw [decide_eq_true counted]
    rfl
  · rw [decide_eq_false counted]
    rfl

theorem Tells.add (tells : e.Tells p ps) (own : q.key = e.key) :
    (addRow p q.date q.row e).Tells p (ps ++ [q]) := by
  constructor
  · exact tells.labels
  · intro index m here
    obtain ⟨sums, found, sum⟩ := tells.sums here
    refine ⟨DateSums.add q.date (ResultValue.number (ResultRow.cell q.row m.title.text)) sums, ?_, ?_⟩
    · simp [addRow, List.getElem?_zipWith, here, found]
    · intro date
      change DateSums.sumAt _ date = (QueryPlan.postedAt (ps ++ [q]) m e.key date).foldl _ _
      rw [postedAt_concat, DateSums.sumAt_add, sum, List.foldl_append]
      by_cases same : date = q.date
      · rw [if_pos same, if_pos ⟨own, same.symm⟩]
        rfl
      · rw [if_neg same, if_neg fun both => same both.2.symm]
        rfl

theorem Tells.pass (tells : e.Tells p ps) (other : q.key ≠ e.key) : e.Tells p (ps ++ [q]) := by
  constructor
  · exact tells.labels
  · intro index m here
    obtain ⟨sums, found, sum⟩ := tells.sums here
    refine ⟨sums, found, fun date => ?_⟩
    rw [postedAt_concat, if_neg fun both => other both.1, List.append_nil]
    exact sum date

end LedgerEntry

/-- That the entries of a ledger stand in order, are those of the known combinations, and tell what was
posted. -/
structure EntriesHold (p : QueryPlan) (known : List (List GroupValue)) (ps : List Posting)
    (entries : List LedgerEntry) : Prop where
  sorted : (entries.map (·.key)).Pairwise fun k l => GroupValue.combinationBefore k l = true
  keys : ∀ key, key ∈ entries.map (·.key) ↔ key ∈ known
  posted : ∀ q ∈ ps, q.key ∈ known
  tells : ∀ e ∈ entries, e.Tells p ps

namespace EntriesHold

open LedgerEntry (change blank addRow)

variable {p : QueryPlan} {keys : List (List GroupValue)} {ps : List Posting}
  {entries : List LedgerEntry} {key : List GroupValue}

theorem opened (holds : EntriesHold p keys [] entries) (long : key.length = p.groups.length) :
    EntriesHold p (keys ++ [key]) [] (change (blank p (p.withLabels key)) id entries) := by
  have own := LedgerEntry.blank_key p long
  have changed := LedgerEntry.change_keys (blank p (p.withLabels key)) id entries fun _ => rfl
  constructor
  · rw [changed]
    exact insertSorted_sorted GroupValue.combination_strict _ holds.sorted
  · intro other
    rw [changed, mem_insertSorted, holds.keys, own, List.mem_append, List.mem_singleton]
    exact or_comm
  · exact fun q posted => absurd posted List.not_mem_nil
  · intro e member
    rcases LedgerEntry.mem_change holds.sorted member with ⟨kept, _⟩ | ⟨e₀, known, _, same⟩ | ⟨_, rfl⟩
    · exact holds.tells e kept
    · rw [same]
      exact holds.tells e₀ known
    · exact LedgerEntry.blank_tells long fun q posted => absurd posted List.not_mem_nil

/-- A row is posted to the entry of its combination, which is opened if it was not known. -/
theorem step (holds : EntriesHold p keys ps entries) (q : Posting)
    (long : q.key.length = p.groups.length) : EntriesHold p (keys ++ [q.key]) (ps ++ [q])
      (change (blank p (p.withLabels q.key)) (addRow p q.date q.row) entries) := by
  have own := LedgerEntry.blank_key p long
  have changed := LedgerEntry.change_keys (blank p (p.withLabels q.key)) (addRow p q.date q.row) entries
    fun _ => rfl
  constructor
  · rw [changed]
    exact insertSorted_sorted GroupValue.combination_strict _ holds.sorted
  · intro other
    rw [changed, mem_insertSorted, holds.keys, own, List.mem_append, List.mem_singleton]
    exact or_comm
  · intro r posted
    rcases List.mem_append.mp posted with before | last
    · exact List.mem_append_left _ (holds.posted r before)
    · rw [List.mem_singleton.mp last]
      exact List.mem_append_right _ (List.mem_singleton.mpr rfl)
  · intro e member
    rcases LedgerEntry.mem_change holds.sorted member with
      ⟨kept, other⟩ | ⟨e₀, known, same, rfl⟩ | ⟨absent, rfl⟩
    · exact (holds.tells e kept).pass fun same => other (same.symm.trans own.symm)
    · exact (holds.tells e₀ known).add (same.trans own).symm
    · refine (LedgerEntry.blank_tells long fun r posted same => absent ?_).add own.symm
      rw [own, holds.keys, ← same]
      exact holds.posted r posted

theorem openAll (holds : EntriesHold p keys [] entries) {more : List (List GroupValue)}
    (long : ∀ key ∈ more, key.length = p.groups.length) : EntriesHold p (keys ++ more) []
      (more.foldl (fun entries key => change (blank p (p.withLabels key)) id entries) entries) := by
  induction more generalizing keys entries with
  | nil => rwa [List.append_nil]
  | cons key rest ih =>
    obtain ⟨own, others⟩ := List.forall_mem_cons.mp long
    rw [List.append_cons]
    exact ih (holds.opened own) others

theorem postAll (holds : EntriesHold p keys ps entries) (more : List Posting)
    (long : ∀ q ∈ more, q.key.length = p.groups.length) :
    EntriesHold p (keys ++ more.map (·.key)) (ps ++ more) (more.foldl (fun entries q =>
      change (blank p (p.withLabels q.key)) (addRow p q.date q.row) entries) entries) := by
  induction more generalizing keys ps entries with
  | nil => rwa [List.map_nil, List.append_nil, List.append_nil]
  | cons q rest ih =>
    obtain ⟨own, others⟩ := List.forall_mem_cons.mp long
    rw [List.map_cons, List.append_cons, List.append_cons ps]
    exact ih (holds.step q own) others

end EntriesHold

namespace QueryPlan

variable {p : QueryPlan} {row : ResultRow} {rows : List ResultRow} {key : List GroupValue}
  {date : String}

theorem labelled_combinations (groups : List GroupPlan) (row : ResultRow) :
    combinations (groups.map (GroupPlan.labelled row))
      = (combinations (groups.map (GroupPlan.valuesOf row))).map fun key =>
          key.zip (List.zipWith GroupPlan.valueLabel groups key) := by
  induction groups with
  | nil => rfl
  | cons g rest ih =>
    simp only [List.map_cons, combinations, GroupPlan.labelled, List.flatMap_map, List.map_flatMap,
      List.map_map, ih]
    rfl

theorem pinned_labelled {groups : List GroupPlan} {selection : Selection}
    (custom : ∀ g ∈ groups, g.isCustom = true)
    (chosen : List.Forall₂ GroupPlan.Chooses selection groups) :
    ((groups.zip selection).filterMap fun (g, choice) =>
        choice.map fun index => (GroupValue.bucket index, g.valueLabel (.bucket index)))
      = ((selection.filterMap id).map GroupValue.bucket).zip
          (List.zipWith GroupPlan.valueLabel groups ((selection.filterMap id).map .bucket)) := by
  induction chosen with
  | nil => rfl
  | @cons choice g selection groups own _ ih =>
    obtain ⟨here, others⟩ := List.forall_mem_cons.mp custom
    obtain ⟨index, rfl⟩ : ∃ index, choice = some index := by
      unfold GroupPlan.isCustom at here
      unfold GroupPlan.Chooses at own
      split at own
      · rename_i raw
        rw [raw] at here
        cases here
      · obtain ⟨index, _, same⟩ := own
        exact ⟨index, same⟩
    simp only [List.zip_cons_cons, List.filterMap_cons, Option.map_some, id, List.map_cons,
      List.zipWith_cons_cons, ih others]

theorem knownLabelled_eq (p : QueryPlan) :
    p.knownLabelled = p.knownCombinations.map p.withLabels := by
  unfold knownLabelled knownCombinations
  split
  · rename_i all
    rw [List.map_map]
    apply List.map_congr_left
    intro selection member
    exact pinned_labelled (List.all_eq_true.mp all) (mem_branchSelections.mp member)
  · rfl

theorem length_known (known : key ∈ p.knownCombinations) : key.length = p.groups.length :=
  (mem_knownCombinations.mp known).2.length_eq

theorem mem_postings {q : Posting} : q ∈ p.postings row ↔
    ResultRow.date? row = some q.date ∧ q.row = row ∧ p.Selects row q.key := by
  unfold postings
  split
  · rename_i none
    rw [none]
    exact iff_of_false List.not_mem_nil fun all => nomatch all.1
  · rename_i date labelled
    rw [List.mem_map, labelled]
    constructor
    · rintro ⟨key, member, rfl⟩
      exact ⟨rfl, rfl, mem_combinationsOf.mp member⟩
    · obtain ⟨d, r, key⟩ := q
      rintro ⟨same, rfl, selected⟩
      cases same
      exact ⟨key, mem_combinationsOf.mpr selected, rfl⟩

theorem postedAt_row (p : QueryPlan) (row : ResultRow) (m : PlannedMetric) (key : List GroupValue)
    (date : String) : postedAt (p.postings row) m key date = p.numbersAt [row] m key date := by
  have once : (combinations (p.groups.map (GroupPlan.valuesOf row))).filter (· = key)
      = if p.Selects row key then [key] else [] := by
    rw [List.filter_eq, (p.combinationsOf_nodup row).count]
    simp only [mem_combinationsOf]
    split_ifs <;> rfl
  unfold numbersAt rowsAt
  rw [List.filter_singleton]
  by_cases here : ResultRow.date? row = some date
  · have made : p.postings row
        = (combinations (p.groups.map (GroupPlan.valuesOf row))).map (⟨date, row, ·⟩) := by
      rw [postings, here]
    unfold postedAt
    rw [made, List.filter_map, List.map_map]
    simp only [Function.comp_def, here, and_true, true_and, once]
    split_ifs with selected
    · rw [decide_eq_true selected]
      rfl
    · rw [decide_eq_false selected]
      rfl
  · have none : postedAt (p.postings row) m key date = [] := by
      rw [postedAt, List.map_eq_nil_iff, List.filter_eq_nil_iff]
      intro q member counted
      rw [(mem_postings.mp member).1, (of_decide_eq_true counted).2] at here
      exact here rfl
    rw [none, decide_eq_false fun both => here both.1]
    rfl

theorem postedAt_rows (p : QueryPlan) (rows : List ResultRow) (m : PlannedMetric)
    (key : List GroupValue) (date : String) :
    postedAt (rows.flatMap p.postings) m key date = p.numbersAt rows m key date := by
  induction rows with
  | nil => rfl
  | cons row rest ih =>
    have split : p.numbersAt (row :: rest) m key date
        = p.numbersAt [row] m key date ++ p.numbersAt rest m key date := by
      unfold numbersAt rowsAt
      rw [← List.map_append, ← List.filter_append]
      rfl
    rw [split, ← postedAt_row, ← ih, List.flatMap_cons]
    unfold postedAt
    rw [List.filter_append, List.map_append]

end QueryPlan

namespace Ledger

variable {p : QueryPlan} {row : ResultRow} {rows : List ResultRow} {l l' : Ledger}

/-- That a ledger holds what some rows come to. -/
structure Holds (p : QueryPlan) (rows : List ResultRow) (l : Ledger) : Prop where
  sorted : l.dates.Pairwise fun a b => decide (a < b) = true
  dates : ∀ date, date ∈ l.dates ↔ date ∈ p.datesOf rows
  entries : EntriesHold p (p.knownCombinations ++ (rows.flatMap p.postings).map (·.key))
    (rows.flatMap p.postings) l.entries

theorem opening_holds (p : QueryPlan) : (opening p).Holds p [] := by
  have nothing : EntriesHold p [] [] [] :=
    ⟨.nil, fun _ => Iff.rfl, fun _ member => absurd member List.not_mem_nil,
      fun _ member => absurd member List.not_mem_nil⟩
  constructor
  · exact sortDistinct_sorted text_strict p.buckets
  · intro date
    unfold opening
    rw [mem_sortDistinct, QueryPlan.mem_datesOf]
    exact (or_iff_left fun ⟨_, member, _⟩ => List.not_mem_nil member).symm
  · unfold opening
    dsimp only
    rw [QueryPlan.knownLabelled_eq, List.foldl_map]
    simp only [List.flatMap_nil, List.map_nil, List.append_nil]
    exact nothing.openAll fun key => QueryPlan.length_known

theorem post_holds (holds : l.Holds p rows) {date : String}
    (labelled : ResultRow.date? row = some date) : (l.post p date row).Holds p (rows ++ [row]) := by
  have own : p.postings row
      = (combinations (p.groups.map (GroupPlan.valuesOf row))).map (⟨date, row, ·⟩) := by
    rw [QueryPlan.postings, labelled]
  constructor
  · exact insertSorted_sorted text_strict date holds.sorted
  · intro other
    unfold post
    rw [mem_insertSorted, holds.dates, QueryPlan.mem_datesOf, QueryPlan.mem_datesOf]
    simp only [List.mem_append, List.mem_singleton, or_and_right, exists_or, exists_eq_left, labelled,
      Option.some.injEq]
    rw [eq_comm, or_comm, or_assoc]
  · have posted := holds.entries.postAll (p.postings row) fun q member =>
      (QueryPlan.mem_postings.mp member).2.2.length_eq
    unfold post
    rw [QueryPlan.labelled_combinations, List.foldl_map]
    simp only [List.flatMap_append, List.flatMap_cons, List.flatMap_nil, List.append_nil,
      List.map_append, ← List.append_assoc]
    rw [own, List.foldl_map] at posted
    rw [own]
    exact posted

theorem pass_holds (holds : l.Holds p rows) (undated : ResultRow.date? row = none) :
    l.Holds p (rows ++ [row]) := by
  have own : p.postings row = [] := by rw [QueryPlan.postings, undated]
  constructor
  · exact holds.sorted
  · intro date
    rw [holds.dates, QueryPlan.mem_datesOf, QueryPlan.mem_datesOf]
    simp only [List.mem_append, List.mem_singleton, or_and_right, exists_or, exists_eq_left, undated,
      reduceCtorEq, or_false]
  · simp only [List.flatMap_append, List.flatMap_cons, List.flatMap_nil, List.append_nil, own]
    exact holds.entries

def Bars (p : QueryPlan) (row : ResultRow) : Prop :=
  (ResultRow.date? row).isSome = true ∧ ∃ column ∈ row.map (·.1), p.refuses column = true

theorem any_refuses : (row.any fun cell => p.refuses cell.1) = true ↔
    ∃ column ∈ row.map (·.1), p.refuses column = true := by
  rw [List.any_eq_true]
  constructor
  · rintro ⟨cell, member, refused⟩
    exact ⟨cell.1, List.mem_map_of_mem member, refused⟩
  · rintro ⟨column, named, refused⟩
    obtain ⟨cell, member, rfl⟩ := List.mem_map.mp named
    exact ⟨cell, member, refused⟩

theorem read_barred (l : Ledger) (barred : Bars p row) : l.read p row = .error .internal := by
  obtain ⟨some, refused⟩ := barred
  obtain ⟨date, dated⟩ := Option.isSome_iff_exists.mp some
  unfold ResultRow.date? at dated
  unfold read
  rw [dated]
  exact if_pos (any_refuses.mpr refused)

theorem read_holds (holds : l.Holds p rows) (free : ¬Bars p row) :
    ∃ l', l.read p row = .ok l' ∧ l'.Holds p (rows ++ [row]) := by
  cases dated : ResultRow.date? row with
  | none =>
    refine ⟨l, ?_, pass_holds holds dated⟩
    unfold ResultRow.date? at dated
    unfold read
    rw [dated]
  | some date =>
    refine ⟨l.post p date row, ?_, post_holds holds dated⟩
    have clear : ¬(row.any fun cell => p.refuses cell.1) = true := fun refused =>
      free ⟨Option.isSome_of_eq_some dated, any_refuses.mp refused⟩
    unfold ResultRow.date? at dated
    unfold read
    rw [dated]
    exact if_neg clear

theorem readAll_holds (holds : l.Holds p rows) {more : List ResultRow}
    (free : ∀ row ∈ more, ¬Bars p row) :
    ∃ l', readAll p more l = .ok l' ∧ l'.Holds p (rows ++ more) := by
  induction more generalizing rows l with
  | nil => exact ⟨l, rfl, by rwa [List.append_nil]⟩
  | cons row rest ih =>
    obtain ⟨own, others⟩ := List.forall_mem_cons.mp free
    obtain ⟨next, made, held⟩ := read_holds holds own
    obtain ⟨last, done, all⟩ := ih held others
    refine ⟨last, ?_, by rwa [List.append_cons]⟩
    unfold readAll
    rw [made]
    exact done

theorem readAll_barred (l : Ledger) (barred : ∃ row ∈ rows, Bars p row) :
    readAll p rows l = .error .internal := by
  induction rows generalizing l with
  | nil =>
    obtain ⟨row, member, _⟩ := barred
    exact absurd member List.not_mem_nil
  | cons row rest ih =>
    unfold readAll
    by_cases own : Bars p row
    · rw [read_barred l own]
    · have later : ∃ row ∈ rest, Bars p row := by
        obtain ⟨other, member, bars⟩ := barred
        rcases List.mem_cons.mp member with rfl | inside
        · exact absurd bars own
        · exact ⟨other, inside, bars⟩
      cases made : l.read p row with
      | error fault =>
        unfold read at made
        split at made
        · cases made
        split at made
        · cases made
          rfl
        · cases made
      | ok next => exact ih next later

theorem Holds.dates_eq (holds : l.Holds p rows) : l.dates = p.datesOf rows :=
  text_strict.eq_of_sorted holds.sorted (sortDistinct_sorted text_strict _) holds.dates

theorem Holds.keys_eq (holds : l.Holds p rows) : l.entries.map (·.key) = p.keysOf rows := by
  apply GroupValue.combination_strict.eq_of_sorted holds.entries.sorted
    (sortDistinct_sorted GroupValue.combination_strict _)
  intro key
  change _ ↔ key ∈ p.keysOf rows
  rw [holds.entries.keys, QueryPlan.mem_keysOf, List.mem_append, QueryPlan.mem_knownCombinations]
  apply or_congr_right
  constructor
  · intro posted
    obtain ⟨q, inside, rfl⟩ := List.mem_map.mp posted
    obtain ⟨row, among, own⟩ := List.mem_flatMap.mp inside
    obtain ⟨dated, _, selected⟩ := QueryPlan.mem_postings.mp own
    exact ⟨row, among, Option.isSome_of_eq_some dated, selected⟩
  · rintro ⟨row, among, some, selected⟩
    obtain ⟨date, dated⟩ := Option.isSome_iff_exists.mp some
    exact List.mem_map.mpr ⟨⟨date, row, key⟩, List.mem_flatMap.mpr ⟨row, among,
      QueryPlan.mem_postings.mpr ⟨dated, rfl, selected⟩⟩, rfl⟩

theorem Holds.series_eq (holds : l.Holds p rows) : l.series p = p.shown rows := by
  have metrics : p.metrics.zipIdx.map Prod.fst = p.metrics := List.zipIdx_map_fst 0 p.metrics
  unfold series QueryPlan.shown
  conv_rhs => rw [← metrics, List.flatMap_map]
  apply List.flatMap_congr
  rintro ⟨m, index⟩ member
  rw [← holds.keys_eq, ← holds.dates_eq, List.map_map]
  apply List.map_congr_left
  intro e inside
  have tells := holds.entries.tells e inside
  obtain ⟨sums, found, sum⟩ := tells.sums (List.mem_zipIdx_iff_getElem?.mp member)
  simp only [Function.comp_apply, Series.mk.injEq]
  constructor
  · rw [QueryPlan.seriesName_eq, tells.labels]
    exact QueryPlan.foldl_intercalate _ _
  · apply List.map_congr_left
    intro date _
    rw [found, Option.getD_some, sum, QueryPlan.postedAt_rows, QueryPlan.value_eq]

end Ledger

end Analytics
