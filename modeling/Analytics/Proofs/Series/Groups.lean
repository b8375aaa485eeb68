import Analytics.Proofs.Series.Combinations
import Analytics.Proofs.Series.Count
import Analytics.Proofs.Store.Gather

/-!
Groups of a branch. A branch pins one bucket of each custom group; the columns that it groups by tell
exactly whether a row has the values of a combination with these buckets, and so do the values read
back from a result row.
-/

namespace Analytics

namespace Cell

def isClear : Cell → Bool
  | .null => true
  | .text s => s ≠ ResultValue.nullLabel
  | _ => false

theorem clear_exact {c : Cell} (clear : c.isClear = true) : c.isExact = true := by
  cases c <;> first | rfl | cases clear

theorem hasLabel_clear {c : Cell} (clear : c.isClear = true) (label : String) :
    c.hasLabel label = true ↔
      label = (ResultValue.label? c.toJson).getD ResultValue.nullLabel := by
  cases c with
  | null => simp [hasLabel, isNull, ResultValue.label?, toJson]
  | text s => simp [hasLabel, isNull, ResultValue.label?, toJson, eq_comm]
  | int i => cases clear
  | real x => cases clear
  | blob bytes => cases clear

end Cell

namespace GroupValue

def choice : GroupValue → Option Nat
  | .bucket index => some index
  | .label _ => none

/-- What rows with a value hold in the grouped column of their branch. -/
def cell : GroupValue → Cell
  | .bucket _ => .int 1
  | .label text => if text = ResultValue.nullLabel then .null else .text text

theorem label_cell {c : Cell} (clear : c.isClear = true) (text : String) :
    c = (GroupValue.label text).cell ↔ c.hasLabel text = true := by
  rw [Cell.hasLabel_clear clear]
  cases c with
  | null =>
    by_cases here : text = ResultValue.nullLabel <;>
      simp [cell, here, ResultValue.label?, Cell.toJson]
  | text s =>
    have other : s ≠ ResultValue.nullLabel := of_decide_eq_true clear
    by_cases here : text = ResultValue.nullLabel
    · simp [cell, here, ResultValue.label?, Cell.toJson, other.symm]
    · simp [cell, here, ResultValue.label?, Cell.toJson, eq_comm]
  | int i => cases clear
  | real x => cases clear
  | blob bytes => cases clear

end GroupValue

/-- Whether a result row shows what columns hold for a row. -/
def ResultRow.Shows (row : ResultRow) (v : RowView Column) (cs : List (GroupColumn Column)) : Prop :=
  ∀ c ∈ cs, ResultRow.cell row c.title.text = (c.expr.eval v).toJson

namespace GroupColumn

variable {type : ValueType} {column : StoredColumn Column} {pinned : Option Nat} {position : Nat}
  {buckets : List Bucket} {cs : List (GroupColumn Column)} {row : ResultRow} {v : RowView Column}

theorem titles_ofBuckets (made : ofBuckets type column pinned position buckets = .ok cs) :
    cs.map (·.title) = buckets.map (·.title) := by
  induction buckets generalizing position cs with
  | nil =>
    cases made
    rfl
  | cons b rest ih =>
    obtain ⟨expr, others, rfl, later, _⟩ := ofBuckets_cons made
    rw [List.map_cons, List.map_cons, ih later]

theorem titles_ofPlan {g : GroupPlan} (made : ofPlan g column pinned = .ok cs) :
    cs.map (·.title) = g.titles := by
  unfold ofPlan at made
  unfold GroupPlan.titles
  split at made
  · cases made
    rfl
  · exact titles_ofBuckets made

theorem isSet_flag (p : Predicate Column) (v : RowView Column) :
    ResultValue.isSet ((GroupExpr.flag p).eval v).toJson = (p.eval v).holds := by
  cases held : (p.eval v).holds <;>
    simp [GroupExpr.eval, Cell.toJson, ResultValue.isSet, held]

theorem mem_flagged (made : ofBuckets type column pinned position buckets = .ok cs)
    (shown : row.Shows v cs) {value : GroupValue} :
    value ∈ GroupPlan.flagged row position buckets ↔
      ∃ i, value = .bucket (position + i) ∧ pinned = some (position + i) ∧
        (buckets[i]?.any fun b => b.accepts type column v) = true := by
  induction buckets generalizing position cs with
  | nil => simp [GroupPlan.flagged]
  | cons b rest ih =>
    obtain ⟨expr, others, rfl, later, chosen⟩ := ofBuckets_cons made
    have tail := ih later fun c member => shown c (List.mem_cons_of_mem _ member)
    have head : ResultRow.cell row b.title.text = (expr.eval v).toJson :=
      shown ⟨expr, b.title⟩ List.mem_cons_self
    -- The column of a bucket that the branch does not pin is zero in every row.
    have set : ResultValue.isSet (ResultRow.cell row b.title.text) = true ↔
        pinned = some position ∧ b.accepts type column v = true := by
      rw [head]
      rcases chosen with ⟨here, p, compiled, rfl⟩ | ⟨elsewhere, rfl⟩
      · simp only [isSet_flag, Bucket.accepts, compiled, here, true_and]
      · exact iff_of_false Bool.false_ne_true fun both => elsewhere both.1
    have first : value ∈ GroupPlan.flagged row position (b :: rest) ↔
        (value = .bucket position ∧ pinned = some position ∧ b.accepts type column v = true) ∨
          value ∈ GroupPlan.flagged row (position + 1) rest := by
      rw [GroupPlan.flagged]
      split
      · rename_i held
        rw [List.mem_cons, and_iff_left (set.mp held)]
      · rename_i failed
        exact (or_iff_right fun both => failed (set.mpr both.2)).symm
    rw [first, tail]
    constructor
    · rintro (⟨rfl, here, accepted⟩ | ⟨i, rfl, here, accepted⟩)
      · exact ⟨0, rfl, here, accepted⟩
      · exact ⟨i + 1, by rw [Nat.add_assoc, Nat.add_comm 1], by
          rw [here, Nat.add_assoc, Nat.add_comm 1], accepted⟩
    · rintro ⟨i, rfl, here, accepted⟩
      cases i with
      | zero => exact Or.inl ⟨rfl, here, accepted⟩
      | succ i =>
        refine Or.inr ⟨i, by rw [Nat.add_assoc, Nat.add_comm 1], ?_, accepted⟩
        rw [here, Nat.add_assoc, Nat.add_comm 1]

def groupedCells (cs : List (GroupColumn Column)) (v : RowView Column) : List Cell :=
  (cs.filter isGrouped).map fun c => c.expr.eval v

def unpinned (b : Bucket) : GroupColumn Column := ⟨.zero, b.title⟩

theorem filter_unpinned (bs : List Bucket) : (bs.map unpinned).filter isGrouped = [] := by
  rw [List.filter_map]
  exact List.map_eq_nil_iff.mpr (List.filter_eq_nil_iff.mpr fun _ _ => Bool.false_ne_true)

theorem ofBuckets_past (made : ofBuckets type column pinned position buckets = .ok cs)
    (past : ∀ i, pinned = some i → i < position) : cs = buckets.map unpinned := by
  induction buckets generalizing position cs with
  | nil =>
    cases made
    rfl
  | cons b rest ih =>
    obtain ⟨expr, others, rfl, later, chosen⟩ := ofBuckets_cons made
    have tail := ih later fun i here => Nat.lt_succ_of_lt (past i here)
    rcases chosen with ⟨here, _⟩ | ⟨_, rfl⟩
    · exact absurd (past position here) (Nat.lt_irrefl position)
    · rw [tail]
      rfl

theorem ofBuckets_pinned (made : ofBuckets type column pinned position buckets = .ok cs) {i : Nat}
    (here : pinned = some (position + i)) (inside : i < buckets.length) :
    ∃ before b behind p, buckets = before ++ b :: behind ∧ before.length = i ∧
      Filter.compile type b.operator b.value column = .ok p ∧
        cs = before.map unpinned ++ ⟨.flag p, b.title⟩ :: behind.map unpinned := by
  induction buckets generalizing position cs i with
  | nil => cases inside
  | cons b rest ih =>
    obtain ⟨expr, others, rfl, later, chosen⟩ := ofBuckets_cons made
    cases i with
    | zero =>
      rcases chosen with ⟨_, p, compiled, rfl⟩ | ⟨elsewhere, _⟩
      · have tail : others = rest.map unpinned := by
          apply ofBuckets_past later
          intro j same
          rw [here] at same
          have equal : position = j := Option.some.inj same
          omega
        exact ⟨[], b, rest, p, rfl, rfl, compiled, by rw [tail]; rfl⟩
      · exact absurd here elsewhere
    | succ i =>
      have next : pinned = some (position + 1 + i) := by
        rw [here, Nat.add_assoc, Nat.add_comm 1]
      obtain ⟨before, b', behind, p, rfl, rfl, compiled, rfl⟩ :=
        ih later next (Nat.lt_of_succ_lt_succ inside)
      rcases chosen with ⟨same, _⟩ | ⟨_, rfl⟩
      · have equal : position + (before.length + 1) = position :=
          Option.some.inj (here.symm.trans same)
        omega
      · exact ⟨b :: before, b', behind, p, rfl, rfl, compiled, rfl⟩

theorem grouped_pinned (made : ofBuckets type column pinned position buckets = .ok cs) {i : Nat}
    (here : pinned = some (position + i)) (inside : i < buckets.length) :
    ∃ b p, buckets[i]? = some b ∧ Filter.compile type b.operator b.value column = .ok p ∧
      (cs.filter isGrouped).map (·.expr) = [.flag p] := by
  obtain ⟨before, b, behind, p, rfl, rfl, compiled, rfl⟩ := ofBuckets_pinned made here inside
  refine ⟨b, p, by simp, compiled, ?_⟩
  rw [List.filter_append, filter_unpinned, List.filter_cons_of_pos rfl, filter_unpinned]
  rfl

end GroupColumn

namespace GroupPlan

variable {g : GroupPlan} {column : StoredColumn Column} {pinned : Option Nat}
  {cs : List (GroupColumn Column)} {row : ResultRow} {v : RowView Column}

def isClearOn (g : GroupPlan) (column : StoredColumn Column) (v : RowView Column) : Bool :=
  match g.form with
  | .raw _ => (v.cell column.ref).isClear
  | .custom _ => true

theorem mem_choices_raw {title : Ident} (raw : g.form = .raw title) :
    pinned ∈ g.choices ↔ pinned = none := by
  simp only [choices, raw, List.mem_singleton]

theorem mem_choices_custom {buckets : List Bucket} (custom : g.form = .custom buckets) :
    pinned ∈ g.choices ↔ ∃ i < buckets.length, pinned = some i := by
  simp only [choices, custom, List.mem_map, List.mem_range, eq_comm]

theorem mem_valuesOf (made : GroupColumn.ofPlan g column pinned = .ok cs)
    (chosen : pinned ∈ g.choices) (shown : row.Shows v cs) (clear : g.isClearOn column v = true)
    (value : GroupValue) : value ∈ g.valuesOf row ↔
      value.choice = pinned ∧ g.hasValue column v value = true := by
  unfold GroupColumn.ofPlan at made
  unfold isClearOn at clear
  unfold valuesOf hasValue
  cases form : g.form with
  | raw title =>
    simp only [form] at made clear ⊢
    cases made
    have none := (mem_choices_raw form).mp chosen
    have read := shown _ List.mem_cons_self
    dsimp only [GroupExpr.eval] at read
    rw [read, List.mem_singleton, none]
    cases value with
    | label text =>
      dsimp only
      rw [Cell.hasLabel_clear clear, GroupValue.label.injEq]
      exact (and_iff_right rfl).symm
    | bucket i => exact iff_of_false (fun same => nomatch same) fun both => nomatch both.1
  | custom buckets =>
    simp only [form] at made ⊢
    rw [GroupColumn.mem_flagged made shown]
    cases value with
    | label text =>
      obtain ⟨i, _, some⟩ := (mem_choices_custom form).mp chosen
      rw [some]
      exact iff_of_false (fun ⟨_, same, _⟩ => nomatch same) fun both => nomatch both.1
    | bucket index =>
      simp only [Nat.zero_add, GroupValue.bucket.injEq, GroupValue.choice]
      constructor
      · rintro ⟨i, rfl, here, accepted⟩
        exact ⟨here.symm, accepted⟩
      · rintro ⟨here, accepted⟩
        exact ⟨index, rfl, here.symm, accepted⟩

/-- Whether an expression tells which rows have a value of the pinned bucket. -/
def Tells (g : GroupPlan) (column : StoredColumn Column) (pinned : Option Nat)
    (expr : GroupExpr Column) : Prop :=
  ∀ v, g.isClearOn column v = true → (expr.eval v).isExact = true ∧
    ∀ value : GroupValue, value.choice = pinned →
      (expr.eval v = value.cell ↔ g.hasValue column v value = true)

theorem grouped_one (made : GroupColumn.ofPlan g column pinned = .ok cs)
    (chosen : pinned ∈ g.choices) :
    ∃ expr, (cs.filter GroupColumn.isGrouped).map (·.expr) = [expr] ∧
      g.Tells column pinned expr := by
  unfold GroupColumn.ofPlan at made
  unfold Tells isClearOn hasValue
  cases form : g.form with
  | raw title =>
    simp only [form] at made ⊢
    cases made
    refine ⟨.value column.ref, rfl, fun v clear => ⟨Cell.clear_exact clear, ?_⟩⟩
    intro value same
    rw [(mem_choices_raw form).mp chosen] at same
    cases value with
    | label text => exact GroupValue.label_cell clear text
    | bucket i => cases same
  | custom buckets =>
    simp only [form] at made ⊢
    obtain ⟨i, inside, some⟩ := (mem_choices_custom form).mp chosen
    -- Buckets are counted from zero here.
    have here : pinned = Option.some (0 + i) := by rw [some, Nat.zero_add]
    obtain ⟨b, p, found, compiled, grouped⟩ := GroupColumn.grouped_pinned made here inside
    refine ⟨.flag p, grouped, fun v _ => ⟨rfl, ?_⟩⟩
    intro value same
    cases value with
    | label text =>
      rw [some] at same
      cases same
    | bucket index =>
      have equal : index = i := Option.some.inj (same.trans some)
      subst equal
      have accepted : b.accepts g.type column v = (p.eval v).holds := by
        unfold Bucket.accepts
        rw [compiled]
      simp only [found, Option.any_some, accepted, GroupExpr.eval, GroupValue.cell]
      cases (p.eval v).holds <;> simp

theorem choice_of_hasValue {value : GroupValue} (has : g.hasValue column v value = true) :
    value.choice ∈ g.choices := by
  unfold hasValue at has
  split at has
  · rename_i title text raw
    exact (mem_choices_raw raw).mpr rfl
  · rename_i buckets index custom
    obtain ⟨b, found, _⟩ := Option.any_eq_true _ _ |>.mp has
    exact (mem_choices_custom custom).mpr ⟨index, (List.getElem?_eq_some_iff.mp found).1, rfl⟩
  · cases has

end GroupPlan

namespace Source

variable {s : Source} {index : Nat} {groups : List GroupPlan} {selection : Selection}
  {cs : List (GroupColumn Column)} {row : ResultRow} {v : RowView Column} {key : List GroupValue}

/-- Whether a row has clear cells in the columns of raw groups, for the groups from a place on. -/
def isClear (s : Source) (index : Nat) (v : RowView Column) : List GroupPlan → Bool
  | [] => true
  | g :: rest =>
    match s.groupColumn index g with
    | .ok column => g.isClearOn column v && isClear s (index + 1) v rest
    | .error _ => isClear s (index + 1) v rest

theorem titles_groupColumns (made : s.groupColumns index groups selection = .ok cs) :
    cs.map (·.title) = groups.flatMap (·.titles) := by
  induction groups generalizing index selection cs with
  | nil =>
    cases made
    rfl
  | cons g rest ih =>
    obtain ⟨column, columns, others, _, planned, later, rfl⟩ := groupColumns_cons made
    rw [List.map_append, List.flatMap_cons, ih later, GroupColumn.titles_ofPlan planned]

theorem mem_combinationsOf (made : s.groupColumns index groups selection = .ok cs)
    (chosen : List.Forall₂ (· ∈ ·) selection (groups.map (·.choices))) (shown : row.Shows v cs)
    (clear : s.isClear index v groups = true) (key : List GroupValue) :
    key ∈ combinations (groups.map (GroupPlan.valuesOf row)) ↔
      key.map (·.choice) = selection ∧ s.hasValues index v groups key = true := by
  induction groups generalizing index selection cs key with
  | nil =>
    cases chosen
    cases key <;> simp [combinations, hasValues]
  | cons g rest ih =>
    obtain ⟨column, columns, others, read, planned, later, rfl⟩ := groupColumns_cons made
    rw [List.map_cons] at chosen
    cases chosen with
    | @cons pinned _ selection _ first chosen =>
      simp only [isClear, read, Bool.and_eq_true] at clear
      have head := GroupPlan.mem_valuesOf planned first
        (fun c member => shown c (List.mem_append_left _ member)) clear.1
      have tail := ih later chosen
        (fun c member => shown c (List.mem_append_right _ member)) clear.2
      rw [mem_combinations, List.map_cons]
      cases key with
      | nil => simp [hasValues]
      | cons value values =>
        rw [List.forall₂_cons, head, ← mem_combinations, tail]
        simp only [List.map_cons, List.cons.injEq, hasValues, read, Bool.and_eq_true]
        exact and_and_and_comm

theorem groupedCells_cons {g : GroupPlan} {rest : List GroupPlan} {pinned : Option Nat}
    (made : s.groupColumns index (g :: rest) (pinned :: selection) = .ok cs)
    (chosen : pinned ∈ g.choices) : ∃ column expr others, s.groupColumn index g = .ok column ∧
      g.Tells column pinned expr ∧ s.groupColumns (index + 1) rest selection = .ok others ∧
      ∀ v, GroupColumn.groupedCells cs v = expr.eval v :: GroupColumn.groupedCells others v := by
  obtain ⟨column, columns, others, read, planned, later, rfl⟩ := groupColumns_cons made
  obtain ⟨expr, one, tells⟩ := GroupPlan.grouped_one planned chosen
  refine ⟨column, expr, others, read, tells, later, fun v => ?_⟩
  have cells : (columns.filter GroupColumn.isGrouped).map (fun c => c.expr.eval v)
      = [expr.eval v] := by
    have mapped := congrArg (List.map (GroupExpr.eval v)) one
    rw [List.map_map] at mapped
    exact mapped
  unfold GroupColumn.groupedCells
  rw [List.filter_append, List.map_append, cells, List.singleton_append]

theorem grouped_iff (made : s.groupColumns index groups selection = .ok cs)
    (chosen : List.Forall₂ (· ∈ ·) selection (groups.map (·.choices)))
    (clear : s.isClear index v groups = true) (same : key.map (·.choice) = selection) :
    GroupColumn.groupedCells cs v = key.map (·.cell) ↔ s.hasValues index v groups key = true := by
  induction groups generalizing index selection cs key with
  | nil =>
    cases chosen
    cases List.map_eq_nil_iff.mp same
    cases made
    exact Iff.intro (fun _ => rfl) fun _ => rfl
  | cons g rest ih =>
    rw [List.map_cons] at chosen
    cases chosen with
    | cons first chosen =>
      cases key with
      | nil => cases same
      | cons value values =>
        obtain ⟨pin, same⟩ := List.cons.inj same
        obtain ⟨column, expr, others, read, tells, later, cells⟩ := groupedCells_cons made first
        simp only [isClear, read, Bool.and_eq_true] at clear
        rw [cells v, List.map_cons, List.cons.injEq, (tells v clear.1).2 value pin,
          ih later chosen clear.2 same]
        simp only [hasValues, read, Bool.and_eq_true]

theorem grouped_exact (made : s.groupColumns index groups selection = .ok cs)
    (chosen : List.Forall₂ (· ∈ ·) selection (groups.map (·.choices)))
    (clear : s.isClear index v groups = true) :
    ∀ c ∈ GroupColumn.groupedCells cs v, c.isExact = true := by
  induction groups generalizing index selection cs with
  | nil =>
    cases made
    exact fun c member => absurd member List.not_mem_nil
  | cons g rest ih =>
    rw [List.map_cons] at chosen
    cases chosen with
    | cons first chosen =>
      obtain ⟨column, expr, others, read, tells, later, cells⟩ := groupedCells_cons made first
      simp only [isClear, read, Bool.and_eq_true] at clear
      rw [cells v]
      exact List.forall_mem_cons.mpr ⟨(tells v clear.1).1, ih later chosen clear.2⟩

theorem chosen_of_hasValues (has : s.hasValues index v groups key = true) :
    List.Forall₂ (· ∈ ·) (key.map (·.choice)) (groups.map (·.choices)) := by
  induction groups generalizing index key with
  | nil =>
    cases key with
    | nil => exact .nil
    | cons value values => cases has
  | cons g rest ih =>
    cases key with
    | nil => cases has
    | cons value values =>
      unfold hasValues at has
      split at has
      · obtain ⟨head, tail⟩ := Bool.and_eq_true_iff.mp has
        exact .cons (GroupPlan.choice_of_hasValue head) (ih tail)
      · cases has

end Source

end Analytics
