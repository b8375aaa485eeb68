import Analytics.Proofs.Query.Checks
import Analytics.Proofs.Store.Reads

/-!
Compiled operators on rows. The predicate of an operator looks at one column, and on another column
of the same storage it is the same predicate under the other name. Where the value is missing, only the
test for null and the exclusion from an empty list hold.
-/

namespace Analytics

theorem Truth.any_unknown {ts : List Truth} (all : ∀ t ∈ ts, t = .unknown) (some : ts ≠ []) :
    any ts = .unknown := by
  induction ts with
  | nil => exact absurd rfl some
  | cons t rest ih =>
    obtain ⟨rfl, later⟩ := List.forall_mem_cons.mp all
    change Truth.or .unknown (any rest) = .unknown
    cases rest with
    | nil => rfl
    | cons t others => rw [ih later (List.cons_ne_nil _ _)]; rfl

def StoredColumn.map {κ κ' : Type} (f : κ → κ') (column : StoredColumn κ) : StoredColumn κ' :=
  ⟨f column.ref, column.storage⟩

namespace Filter

section

variable {κ κ' : Type} (f : κ → κ') (type : ValueType) (column : StoredColumn κ) (value : Json)

theorem castTo_map (encoding : TimestampEncoding) (e : Scalar κ) :
    castTo encoding (e.map f) = (castTo encoding e).map f := by cases encoding <;> rfl

theorem operand_map (binding : Binding) :
    operand binding value = (operand binding value).map (Scalar.map f) := by
  cases binding with
  | text => simp only [operand]; cases textOf value <;> rfl
  | number => simp only [operand]; cases numberOf value <;> rfl
  | temporal encoding =>
    simp only [operand]
    cases Instant.ofJson value with
    | error fault => rfl
    | ok t => exact congrArg Except.ok (castTo_map f encoding (.bound (encodeInstant encoding t)))

theorem operands_map (binding : Binding) (values : List Json) :
    operands binding values = (operands binding values).map (List.map (Scalar.map f)) := by
  induction values with
  | nil => rfl
  | cons value rest ih =>
    unfold operands
    rw [operand_map f value binding, ih]
    cases operand (κ := κ) binding value with
    | error fault => rfl
    | ok first => cases operands (κ := κ) binding rest <;> rfl

theorem leftSide_map : leftSide type (column.map f) = (leftSide type column).map f := by
  cases type with
  | number =>
    by_cases text : column.storage = .text <;>
      simp only [leftSide, StoredColumn.map, text, if_true, if_false, Scalar.map]
  | date => exact castTo_map f (dateEncoding column.storage) (.column column.ref)
  | string => rfl
  | other => rfl

theorem comparison_map (op : Comparison) : comparison type (column.map f) value op
    = (comparison type column value op).map (Predicate.map f) := by
  unfold comparison
  rw [leftSide_map, operand_map f]
  simp only [StoredColumn.map]
  cases operand (κ := κ) (bindingFor type column.storage) value <;> rfl

theorem pattern_map (shape : PatternAnchor) : pattern (column.map f) value shape
    = (pattern column value shape).map (Predicate.map f) := by
  unfold pattern
  cases textOf value <;> rfl

theorem range_map : range type (column.map f) value
    = (range type column value).map (Predicate.map f) := by
  unfold range
  cases boundsOf value with
  | error fault => rfl
  | ok bounds =>
    dsimp only
    rw [comparison_map, comparison_map]
    cases comparison type column bounds.1 .atLeast with
    | error fault => rfl
    | ok lower => cases comparison type column bounds.2 .atMost <;> rfl

theorem membership_map : membership type (column.map f) value
    = (membership type column value).map (Predicate.map f) := by
  unfold membership
  rw [leftSide_map]
  simp only [StoredColumn.map]
  split
  · rfl
  · rfl
  · rename_i items _ _
    rw [operands_map f]
    cases operands (κ := κ) (bindingFor type column.storage) items <;> rfl

theorem nonMembership_map : nonMembership type (column.map f) value
    = (nonMembership type column value).map (Predicate.map f) := by
  unfold nonMembership
  rw [leftSide_map]
  simp only [StoredColumn.map]
  split
  · rfl
  · rfl
  · rename_i items _ _
    rw [operands_map f]
    cases operands (κ := κ) (bindingFor type column.storage) items <;> rfl

/-- An operator on a column of another name compiles to the same predicate under the other name. -/
theorem compile_map (op : FilterOperator) :
    compile type op value (column.map f) = (compile type op value column).map (Predicate.map f) := by
  cases op with
  | isNull => rfl
  | isNotNull => rfl
  | equals => exact comparison_map f type column value .equal
  | notEquals => exact comparison_map f type column value .notEqual
  | greaterThan => exact comparison_map f type column value .greater
  | greaterThanOrEqual => exact comparison_map f type column value .atLeast
  | lessThan => exact comparison_map f type column value .less
  | lessThanOrEqual => exact comparison_map f type column value .atMost
  | between => exact range_map f type column value
  | contains => exact pattern_map f column value .inside
  | notContains =>
    simp only [compile]
    cases textOf value <;> rfl
  | startsWith => exact pattern_map f column value .atStart
  | endsWith => exact pattern_map f column value .atEnd
  | inList => exact membership_map f type column value
  | notInList => exact nonMembership_map f type column value

end

section

variable {κ : Type} {type : ValueType} {op : FilterOperator} {value : Json} {column : StoredColumn κ}
  {p : Predicate κ} {v : RowView κ}

theorem compile_columns (made : compile type op value column = .ok p) :
    ∀ c ∈ p.columns, c = column.ref := by
  -- The predicate is one over a single column, renamed, so it can name no other.
  have named := compile_map (fun _ : Unit => column.ref) type ⟨(), column.storage⟩ value op
  change compile type op value column = _ at named
  rw [made] at named
  obtain ⟨general, _, rfl⟩ := map_ok named.symm
  intro c member
  rw [Predicate.columns_map] at member
  obtain ⟨_, _, rfl⟩ := List.mem_map.mp member
  rfl

theorem leftSide_null (type : ValueType) (missing : v.cell column.ref = .null) :
    (leftSide type column).eval v = .null := by
  have cast (encoding : TimestampEncoding) :
      (castTo encoding (.column column.ref)).eval v = .null := by
    cases encoding <;> simp only [castTo, Scalar.eval, missing] <;> rfl
  cases type with
  | number =>
    simp only [leftSide]
    split <;> simp only [Scalar.eval, missing]
    rfl
  | date => exact cast _
  | string => exact missing
  | other => exact missing

theorem comparison_null {operand : Json} {c : Comparison}
    (made : comparison type column operand c = .ok p) (missing : v.cell column.ref = .null) :
    p.eval v = .unknown := by
  obtain ⟨right, _, rfl⟩ := map_ok made
  simp only [Predicate.eval, leftSide_null type missing]
  rfl

theorem within_null (type : ValueType) {items : List (Scalar κ)}
    (missing : v.cell column.ref = .null) (some : items ≠ []) :
    Predicate.evalWithin v (leftSide type column) items = .unknown := by
  unfold Predicate.evalWithin
  rw [leftSide_null type missing]
  refine Truth.any_unknown ?_ (mt List.map_eq_nil_iff.mp some)
  intro t member
  obtain ⟨_, _, rfl⟩ := List.mem_map.mp member
  rfl

theorem operands_some {binding : Binding} {item : Json} {rest : List Json}
    {rights : List (Scalar κ)} (made : operands binding (item :: rest) = .ok rights) :
    rights ≠ [] := by
  unfold operands at made
  split at made
  · cases made
  split at made
  · cases made
  cases made
  exact List.cons_ne_nil _ _

theorem pattern_null {shape : PatternAnchor} (made : pattern column value shape = .ok p)
    (missing : v.cell column.ref = .null) : p.eval v = .unknown := by
  obtain ⟨_, _, rfl⟩ := map_ok made
  simp only [Predicate.eval, missing]
  rfl

theorem range_null (made : range type column value = .ok p) (missing : v.cell column.ref = .null) :
    p.eval v = .unknown := by
  unfold range at made
  split at made
  · cases made
  split at made
  · cases made
  rename_i lower first
  obtain ⟨upper, second, rfl⟩ := map_ok made
  simp only [Predicate.eval, comparison_null first missing, comparison_null second missing]
  rfl

theorem membership_null (made : membership type column value = .ok p)
    (missing : v.cell column.ref = .null) : p.eval v ≠ .yes := by
  unfold membership at made
  split at made
  · cases made
  · cases made
    rw [Predicate.eval]
    decide
  · rename_i items other _
    obtain ⟨rights, listed, rfl⟩ := map_ok made
    cases items with
    | nil => exact absurd rfl other
    | cons item rest =>
      rw [Predicate.eval, within_null type missing (operands_some listed)]
      decide

theorem nonMembership_null (made : nonMembership type column value = .ok p)
    (missing : v.cell column.ref = .null) : itemsOf value = .ok [] ∨ p.eval v = .unknown := by
  unfold nonMembership at made
  split at made
  · cases made
  · rename_i empty
    exact .inl empty
  · rename_i items other _
    obtain ⟨rights, listed, rfl⟩ := map_ok made
    cases items with
    | nil => exact absurd rfl other
    | cons item rest =>
      exact .inr (congrArg Truth.not (within_null type missing (operands_some listed)))

/-- Where a value is missing, an operator other than the test for null holds only if it excludes the
value from an empty list. -/
theorem compile_null (made : compile type op value column = .ok p)
    (missing : v.cell column.ref = .null) (holds : (p.eval v).holds = true) :
    op = .isNull ∨ op = .notInList ∧ itemsOf value = .ok [] := by
  have yes : p.eval v = .yes := of_decide_eq_true holds
  have never (unknown : p.eval v = .unknown) : False := by
    rw [yes] at unknown
    cases unknown
  cases op with
  | isNull => exact .inl rfl
  | isNotNull =>
    cases made
    simp only [Predicate.eval, missing] at yes
    cases yes
  | equals => exact (never (comparison_null made missing)).elim
  | notEquals => exact (never (comparison_null made missing)).elim
  | greaterThan => exact (never (comparison_null made missing)).elim
  | greaterThanOrEqual => exact (never (comparison_null made missing)).elim
  | lessThan => exact (never (comparison_null made missing)).elim
  | lessThanOrEqual => exact (never (comparison_null made missing)).elim
  | between => exact (never (range_null made missing)).elim
  | contains => exact (never (pattern_null made missing)).elim
  | notContains =>
    obtain ⟨text, _, rfl⟩ := map_ok made
    simp only [Predicate.eval, missing] at yes
    cases yes
  | startsWith => exact (never (pattern_null made missing)).elim
  | endsWith => exact (never (pattern_null made missing)).elim
  | inList => exact (membership_null made missing yes).elim
  | notInList => exact .inr ⟨rfl, (nonMembership_null made missing).resolve_right never⟩

end

end Filter

end Analytics
