import Analytics.Proofs.Sql.Outlines

/-!
Forms of statements: the text, and the kinds of the values in their order. The form of a predicate
follows from its operator, its column and the lengths of its lists; the operands have no part in it.
-/

namespace Analytics

inductive BindKind where
  | text
  | int
  | float
  | bool
  deriving DecidableEq, Repr

namespace Bind

def kind : Bind → BindKind
  | .text _ => .text
  | .int _ => .int
  | .float _ => .float
  | .bool _ => .bool

end Bind

/-- The text of a fragment and the kinds of its values. -/
def Fragment.form (f : Fragment) : String × List BindKind := (f.sql, f.binds.map Bind.kind)

/-- The text of a statement and the kinds of its parameters. -/
def Statement.form (s : Statement) : String × List BindKind := (s.sql, s.params.map Bind.kind)

namespace Fragment

variable {f f' g g' : Fragment} {fs gs : List Fragment}

theorem form_append (f g : Fragment) :
    (f ++ g).form = (f.form.1 ++ g.form.1, f.form.2 ++ g.form.2) := by
  simp only [form, append_eq, List.map_append]

theorem append_form (first : f.form = f'.form) (second : g.form = g'.form) :
    (f ++ g).form = (f' ++ g').form := by
  rw [form_append, form_append, first, second]

theorem andThen_form (same : f.form = f'.form) (s : String) :
    (f.andThen s).form = (f'.andThen s).form := by
  rw [andThen_eq, andThen_eq]
  exact append_form same rfl

theorem form_enclose (before behind : String) (f : Fragment) :
    (f.enclose before behind).form = (before ++ (f.form.1 ++ behind), f.form.2) := by
  rw [enclose_eq, form_append, form_append]
  simp only [form, raw, List.map_nil, List.nil_append, List.append_nil]

theorem enclose_form (same : f.form = f'.form) (before behind : String) :
    (f.enclose before behind).form = (f'.enclose before behind).form := by
  rw [form_enclose, form_enclose, same]

theorem join_form (separator : String) (same : fs.map form = gs.map form) :
    (join separator fs).form = (join separator gs).form := by
  induction fs generalizing gs with
  | nil => rw [List.map_eq_nil_iff.mp same.symm]
  | cons f rest ih =>
    cases gs with
    | nil => cases same
    | cons g others =>
      obtain ⟨first, later⟩ := List.cons.inj same
      cases rest with
      | nil =>
        rw [List.map_eq_nil_iff.mp later.symm]
        exact first
      | cons _ _ =>
        cases others with
        | nil => cases later
        | cons _ _ => exact append_form (andThen_form first separator) (ih later)

theorem conjunction_form (same : fs.map form = gs.map form) :
    (conjunction fs).form = (conjunction gs).form := by
  have enclosed (hs : List Fragment) : (hs.map (enclose "(" ")")).map form
      = (hs.map form).map fun x => ("(" ++ (x.1 ++ ")"), x.2) := by
    rw [List.map_map, List.map_map]
    exact List.map_congr_left fun h _ => form_enclose "(" ")" h
  cases fs with
  | nil => rw [List.map_eq_nil_iff.mp same.symm]
  | cons f rest =>
    cases gs with
    | nil => cases same
    | cons g others => exact join_form " AND " (by rw [enclosed, enclosed, same])

end Fragment

namespace Filter

variable {type : ValueType} {c : StoredColumn Column} {v w : Json} {d : Dialect}

theorem castTo_form (encoding : TimestampEncoding) (s t : Instant) :
    ((castTo encoding (.bound (encodeInstant encoding s))).render Column.render d).form
      = ((castTo encoding (.bound (encodeInstant encoding t))).render Column.render d).form := by
  cases encoding <;> rfl

theorem operand_form {binding : Binding} {e e' : Scalar Column} (first : operand binding v = .ok e)
    (second : operand binding w = .ok e') :
    (e.render Column.render d).form = (e'.render Column.render d).form := by
  unfold operand at first second
  cases binding with
  | text =>
    obtain ⟨s, _, rfl⟩ := map_ok first
    obtain ⟨t, _, rfl⟩ := map_ok second
    rfl
  | number =>
    obtain ⟨x, _, rfl⟩ := map_ok first
    obtain ⟨y, _, rfl⟩ := map_ok second
    rfl
  | temporal encoding =>
    obtain ⟨s, _, rfl⟩ := map_ok first
    obtain ⟨t, _, rfl⟩ := map_ok second
    exact castTo_form encoding s t

theorem operands_form {binding : Binding} {vs ws : List Json} {es es' : List (Scalar Column)}
    (long : vs.length = ws.length) (first : operands binding vs = .ok es)
    (second : operands binding ws = .ok es') :
    es.map (fun e => (e.render Column.render d).form)
      = es'.map fun e => (e.render Column.render d).form := by
  have own := operands_ok first
  have other := operands_ok second
  clear first second
  induction own generalizing ws es' with
  | nil =>
    rw [List.length_eq_zero_iff.mp long.symm] at other
    cases other
    rfl
  | cons bound _ ih =>
    cases other with
    | nil => cases long
    | cons bound' later =>
      rw [List.map_cons, List.map_cons, operand_form bound bound', ih (Nat.succ.inj long) later]

theorem comparison_form {op : Comparison} {p p' : Predicate Column}
    (first : comparison type c v op = .ok p) (second : comparison type c w op = .ok p') :
    (p.render Column.render d).form = (p'.render Column.render d).form := by
  obtain ⟨right, bound, rfl⟩ := map_ok first
  obtain ⟨right', bound', rfl⟩ := map_ok second
  exact Fragment.append_form rfl (operand_form bound bound')

theorem range_form {p p' : Predicate Column} (first : range type c v = .ok p)
    (second : range type c w = .ok p') :
    (p.render Column.render d).form = (p'.render Column.render d).form := by
  obtain ⟨_, _, lower, upper, -, least, most, rfl⟩ := range_ok first
  obtain ⟨_, _, lower', upper', -, least', most', rfl⟩ := range_ok second
  exact Fragment.append_form (Fragment.andThen_form (comparison_form least least') " AND ")
    (comparison_form most most')

theorem list_form (word : String) (item : Scalar Column) {es es' : List (Scalar Column)}
    (same : es.map (fun e => (e.render Column.render d).form)
      = es'.map fun e => (e.render Column.render d).form) :
    (Predicate.renderList Column.render d word item es).form
      = (Predicate.renderList Column.render d word item es').form := by
  have listed (xs : List (Scalar Column)) : (xs.map (·.render Column.render d)).map Fragment.form
      = xs.map fun e => (e.render Column.render d).form := List.map_map
  refine Fragment.append_form rfl (Fragment.enclose_form (Fragment.join_form ", " ?_) "(" ")")
  rw [listed, listed, same]

theorem listed_form {empty : Predicate Column}
    {listed : Scalar Column → List (Scalar Column) → Predicate Column} {p p' : Predicate Column}
    {word : String}
    (spelled : ∀ x es, (listed x es).render Column.render d
      = Predicate.renderList Column.render d word x es)
    (alike : v.Alike w) (first : IsListed type c v empty listed p)
    (second : IsListed type c w empty listed p') :
    (p.render Column.render d).form = (p'.render Column.render d).form := by
  obtain ⟨items, rfl, own⟩ := first
  obtain ⟨others, rfl, other⟩ := second
  have long := alike items others rfl rfl
  rcases own with ⟨rfl, rfl⟩ | ⟨filled, es, bound, rfl⟩
  · rcases other with ⟨_, rfl⟩ | ⟨filled', _⟩
    · rfl
    · exact absurd (List.length_eq_zero_iff.mp long.symm) filled'
  · rcases other with ⟨rfl, _⟩ | ⟨_, es', bound', rfl⟩
    · exact absurd (List.length_eq_zero_iff.mp long) filled
    · rw [spelled, spelled]
      exact list_form word _ (operands_form long bound bound')

theorem like_form (k : Column) (s t : String) :
    (Predicate.renderLike Column.render d k s).form
      = (Predicate.renderLike Column.render d k t).form := rfl

theorem pattern_form {shape : PatternAnchor} {p p' : Predicate Column}
    (first : pattern c v shape = .ok p) (second : pattern c w shape = .ok p') :
    (p.render Column.render d).form = (p'.render Column.render d).form := by
  obtain ⟨s, _, rfl⟩ := map_ok first
  obtain ⟨t, _, rfl⟩ := map_ok second
  exact like_form c.ref _ _

/-- Two operands of an operator on a column compile to predicates of one form; lists have to be
equally long. -/
theorem compile_form {op : FilterOperator} {p p' : Predicate Column}
    (long : op = .inList ∨ op = .notInList → v.Alike w) (first : compile type op v c = .ok p)
    (second : compile type op w c = .ok p') :
    (p.render Column.render d).form = (p'.render Column.render d).form := by
  cases op with
  | isNull =>
    cases first
    cases second
    rfl
  | isNotNull =>
    cases first
    cases second
    rfl
  | equals => exact comparison_form first second
  | notEquals => exact comparison_form first second
  | greaterThan => exact comparison_form first second
  | greaterThanOrEqual => exact comparison_form first second
  | lessThan => exact comparison_form first second
  | lessThanOrEqual => exact comparison_form first second
  | between => exact range_form first second
  | contains => exact pattern_form first second
  | notContains =>
    obtain ⟨s, _, rfl⟩ := map_ok first
    obtain ⟨t, _, rfl⟩ := map_ok second
    exact Fragment.enclose_form (like_form c.ref _ _) "NOT (" ")"
  | startsWith => exact pattern_form first second
  | endsWith => exact pattern_form first second
  | inList =>
    exact listed_form (fun _ _ => rfl) (long (Or.inl rfl)) (membership_ok first)
      (membership_ok second)
  | notInList =>
    exact listed_form (fun _ _ => rfl) (long (Or.inr rfl)) (nonMembership_ok first)
      (nonMembership_ok second)

end Filter

end Analytics
