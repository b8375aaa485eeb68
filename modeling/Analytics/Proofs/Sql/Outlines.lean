import Analytics.Proofs.Query.Checks
import Analytics.Proofs.Sql.Statements

/-!
Outlines of templates. What is left of a statement without its quoted parts depends on the kinds of
its predicates and on the lengths of its lists, and neither on names nor on bound values.
-/

namespace Analytics

open Template

namespace Template

theorem outline_join (separator : String) (ts : List Template) :
    outline (join separator ts) = separator.toList.intercalate (ts.map outline) := by
  induction ts with
  | nil => rfl
  | cons t rest ih =>
    cases rest with
    | nil => simp only [join, List.map_cons, List.map_nil, List.intercalate_singleton]
    | cons u rest =>
      simp only [join, List.map_cons] at ih ⊢
      rw [outline_append, outline_cons, ih, List.intercalate_cons_cons, Piece.outline,
        List.append_assoc]

theorem outline_enclose (before behind : String) (t : Template) :
    outline (t.enclose before behind) = before.toList ++ (outline t ++ behind.toList) := by
  rw [enclose, outline_cons, outline_append, outline_cons, outline_nil, List.append_nil,
    Piece.outline, Piece.outline]

theorem outline_conjunction {ts us : List Template} (same : ts.map outline = us.map outline) :
    outline (conjunction ts) = outline (conjunction us) := by
  have empty : ts = [] ↔ us = [] := by
    rw [← List.map_eq_nil_iff (f := outline), same, List.map_eq_nil_iff]
  have enclosed (vs : List Template) : vs.map (outline ∘ enclose "(" ")")
      = (vs.map outline).map fun cs => "(".toList ++ (cs ++ ")".toList) := by
    rw [List.map_map]
    exact List.map_congr_left fun v _ => outline_enclose "(" ")" v
  cases ts with
  | nil => rw [empty.mp rfl]
  | cons t rest =>
    cases us with
    | nil => cases empty.mpr rfl
    | cons u others =>
      rw [conjunction, conjunction, outline_join, outline_join, List.map_map, List.map_map, enclosed,
        enclosed, same]
      · exact List.cons_ne_nil u others
      · exact List.cons_ne_nil t rest

end Template

namespace Column

theorem outline_template (c d : Column) : outline c.template = outline d.template := rfl

end Column

/-- Whether two operands are lists of one length, where both are lists. -/
def Json.Alike (v w : Json) : Prop :=
  ∀ items others, v = .array items → w = .array others → items.length = others.length

namespace Filter

variable {type : ValueType} {c c' : StoredColumn Column} {v w : Json}

theorem outline_castTo (d : Dialect) (encoding : TimestampEncoding) {e e' : Scalar Column}
    (same : outline (e.template d) = outline (e'.template d)) :
    outline ((castTo encoding e).template d) = outline ((castTo encoding e').template d) := by
  cases encoding <;> simp only [castTo, Scalar.template, outline_enclose, same]

theorem outline_leftSide (d : Dialect) (storage : c.storage = c'.storage) :
    outline ((leftSide type c).template d) = outline ((leftSide type c').template d) := by
  have columns : outline ((Scalar.column c.ref).template d)
      = outline ((Scalar.column c'.ref).template d) := rfl
  cases type with
  | number =>
    simp only [leftSide, storage]
    split
    · simp only [Scalar.template, outline_enclose, c.ref.outline_template c'.ref]
    · exact columns
  | date =>
    simp only [leftSide, storage]
    exact outline_castTo d _ columns
  | string => exact columns
  | other => exact columns

theorem outline_operand {binding : Binding} {e e' : Scalar Column} (d : Dialect)
    (first : operand binding v = .ok e) (second : operand binding w = .ok e') :
    outline (e.template d) = outline (e'.template d) := by
  unfold operand at first second
  cases binding with
  | text =>
    obtain ⟨s, _, rfl⟩ := map_ok first
    obtain ⟨t, _, rfl⟩ := map_ok second
    rfl
  | number =>
    obtain ⟨x, _, rfl⟩ := map_ok first
    obtain ⟨y, _, rfl⟩ := map_ok second
    rfl
  | temporal encoding =>
    obtain ⟨s, _, rfl⟩ := map_ok first
    obtain ⟨t, _, rfl⟩ := map_ok second
    exact outline_castTo d encoding rfl

theorem outline_operands {binding : Binding} {vs ws : List Json} {es es' : List (Scalar Column)}
    (d : Dialect) (long : vs.length = ws.length) (first : operands binding vs = .ok es)
    (second : operands binding ws = .ok es') :
    es.map (fun e => outline (e.template d)) = es'.map fun e => outline (e.template d) := by
  have own := operands_ok first
  have other := operands_ok second
  clear first second
  induction own generalizing ws es' with
  | nil =>
    obtain rfl := List.length_eq_zero_iff.mp long.symm
    cases other
    rfl
  | cons operand _ ih =>
    cases other with
    | nil => cases long
    | cons paired rest =>
      rw [List.map_cons, List.map_cons, outline_operand d operand paired,
        ih (Nat.succ.inj long) rest]

theorem outline_comparison {op : Comparison} {p p' : Predicate Column} (d : Dialect)
    (storage : c.storage = c'.storage) (first : comparison type c v op = .ok p)
    (second : comparison type c' w op = .ok p') :
    outline (p.template d) = outline (p'.template d) := by
  unfold comparison at first second
  rw [← storage] at second
  obtain ⟨right, bound, rfl⟩ := map_ok first
  obtain ⟨right', bound', rfl⟩ := map_ok second
  rw [Predicate.template, Predicate.template, outline_append, outline_append, outline_cons,
    outline_cons, outline_leftSide d storage, outline_operand d bound bound']

theorem outline_like (d : Dialect) (k k' : Column) (s s' : String) :
    outline (Predicate.likeTemplate d k s) = outline (Predicate.likeTemplate d k' s') := rfl

theorem outline_list (d : Dialect) (word : String) (storage : c.storage = c'.storage)
    {es es' : List (Scalar Column)}
    (same : es.map (fun e => outline (e.template d)) = es'.map fun e => outline (e.template d)) :
    outline (Predicate.listTemplate d word (leftSide type c) es)
      = outline (Predicate.listTemplate d word (leftSide type c') es') := by
  have listed (xs : List (Scalar Column)) : (xs.map (Scalar.template d)).map outline
      = xs.map fun e => outline (e.template d) := List.map_map
  rw [Predicate.listTemplate, Predicate.listTemplate, outline_append, outline_append, outline_cons,
    outline_cons, outline_enclose, outline_enclose, outline_join, outline_join, listed, listed, same,
    outline_leftSide d storage]

/-- Whether a predicate is that of a list: a fixed one for an empty list, else one over as many
operands. -/
def IsListed (type : ValueType) (c : StoredColumn Column) (v : Json) (empty : Predicate Column)
    (listed : Scalar Column → List (Scalar Column) → Predicate Column) (p : Predicate Column) :
    Prop :=
  ∃ items, v = .array items ∧ (items = [] ∧ p = empty ∨ items ≠ [] ∧
    ∃ es, operands (bindingFor type c.storage) items = .ok es ∧ p = listed (leftSide type c) es)

theorem membership_ok {p : Predicate Column} (passed : membership type c v = .ok p) :
    IsListed type c v .never .within p := by
  unfold membership at passed
  split at passed
  · cases passed
  · rename_i listed
    cases passed
    exact ⟨[], itemsOf_ok listed, Or.inl ⟨rfl, rfl⟩⟩
  · rename_i items filled listed
    obtain ⟨es, bound, rfl⟩ := map_ok passed
    exact ⟨items, itemsOf_ok listed, Or.inr ⟨filled, es, bound, rfl⟩⟩

theorem nonMembership_ok {p : Predicate Column} (passed : nonMembership type c v = .ok p) :
    IsListed type c v .always .notWithin p := by
  unfold nonMembership at passed
  split at passed
  · cases passed
  · rename_i listed
    cases passed
    exact ⟨[], itemsOf_ok listed, Or.inl ⟨rfl, rfl⟩⟩
  · rename_i items filled listed
    obtain ⟨es, bound, rfl⟩ := map_ok passed
    exact ⟨items, itemsOf_ok listed, Or.inr ⟨filled, es, bound, rfl⟩⟩

theorem outline_listed {empty : Predicate Column}
    {listed : Scalar Column → List (Scalar Column) → Predicate Column} {p p' : Predicate Column}
    (d : Dialect) {word : String}
    (spelled : ∀ x es, (listed x es).template d = Predicate.listTemplate d word x es)
    (storage : c.storage = c'.storage) (alike : v.Alike w)
    (first : IsListed type c v empty listed p) (second : IsListed type c' w empty listed p') :
    outline (p.template d) = outline (p'.template d) := by
  obtain ⟨items, rfl, own⟩ := first
  obtain ⟨others, rfl, other⟩ := second
  have long := alike items others rfl rfl
  rw [← storage] at other
  rcases own with ⟨rfl, rfl⟩ | ⟨filled, es, bound, rfl⟩
  · rcases other with ⟨_, rfl⟩ | ⟨filled', _⟩
    · rfl
    · exact absurd (List.length_eq_zero_iff.mp long.symm) filled'
  · rcases other with ⟨rfl, _⟩ | ⟨_, es', bound', rfl⟩
    · exact absurd (List.length_eq_zero_iff.mp long) filled
    · rw [spelled, spelled]
      exact outline_list d word storage (outline_operands d long bound bound')

theorem outline_range {p p' : Predicate Column} (d : Dialect) (storage : c.storage = c'.storage)
    (first : range type c v = .ok p) (second : range type c' w = .ok p') :
    outline (p.template d) = outline (p'.template d) := by
  obtain ⟨_, _, lower, upper, -, least, most, rfl⟩ := range_ok first
  obtain ⟨_, _, lower', upper', -, least', most', rfl⟩ := range_ok second
  rw [Predicate.template, Predicate.template, outline_append, outline_append, outline_cons,
    outline_cons, outline_comparison d storage least least', outline_comparison d storage most most']

theorem outline_pattern {shape : PatternAnchor} {p p' : Predicate Column} (d : Dialect)
    (first : pattern c v shape = .ok p) (second : pattern c' w shape = .ok p') :
    outline (p.template d) = outline (p'.template d) := by
  obtain ⟨s, _, rfl⟩ := map_ok first
  obtain ⟨t, _, rfl⟩ := map_ok second
  exact outline_like d _ _ _ _

theorem outline_compile {op : FilterOperator} {p p' : Predicate Column} (d : Dialect)
    (storage : c.storage = c'.storage) (alike : v.Alike w) (first : compile type op v c = .ok p)
    (second : compile type op w c' = .ok p') : outline (p.template d) = outline (p'.template d) := by
  cases op with
  | isNull =>
    cases first
    cases second
    rfl
  | isNotNull =>
    cases first
    cases second
    rfl
  | equals => exact outline_comparison d storage first second
  | notEquals => exact outline_comparison d storage first second
  | greaterThan => exact outline_comparison d storage first second
  | greaterThanOrEqual => exact outline_comparison d storage first second
  | lessThan => exact outline_comparison d storage first second
  | lessThanOrEqual => exact outline_comparison d storage first second
  | between => exact outline_range d storage first second
  | contains => exact outline_pattern d first second
  | notContains =>
    obtain ⟨s, _, rfl⟩ := map_ok first
    obtain ⟨t, _, rfl⟩ := map_ok second
    rw [Predicate.template, Predicate.template, outline_enclose, outline_enclose, outline_like d]
  | startsWith => exact outline_pattern d first second
  | endsWith => exact outline_pattern d first second
  | inList =>
    exact outline_listed d (fun _ _ => rfl) storage alike (membership_ok first) (membership_ok second)
  | notInList =>
    exact outline_listed d (fun _ _ => rfl) storage alike (nonMembership_ok first)
      (nonMembership_ok second)

end Filter

end Analytics
