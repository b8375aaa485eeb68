import Analytics.Filter.Compile
import Analytics.Store.Meaning

/-!
Lists of operands. What is in two lists one behind the other is in one of them, and what is in neither
is not in both together, with the truth that is unknown on nulls. An empty list is compiled without a
look at the column, and yet it says what a list without items would say.
-/

namespace Analytics

namespace Truth

@[simp] theorem no_or (t : Truth) : no.or t = t := by cases t <;> rfl

theorem or_assoc (s t u : Truth) : (s.or t).or u = s.or (t.or u) := by
  cases s <;> cases t <;> cases u <;> rfl

theorem not_or (s t : Truth) : (s.or t).not = s.not.and t.not := by cases s <;> cases t <;> rfl

theorem any_cons (t : Truth) (ts : List Truth) : any (t :: ts) = t.or (any ts) := rfl

theorem any_append (ts us : List Truth) : any (ts ++ us) = (any ts).or (any us) := by
  induction ts with
  | nil => exact (no_or _).symm
  | cons t rest ih => rw [List.cons_append, any_cons, any_cons, ih, or_assoc]

end Truth

theorem Predicate.evalWithin_append {κ : Type} (v : RowView κ) (item : Scalar κ)
    (items others : List (Scalar κ)) : evalWithin v item (items ++ others)
      = (evalWithin v item items).or (evalWithin v item others) := by
  rw [evalWithin, List.map_append, Truth.any_append]
  rfl

namespace Filter

theorem operands_append {κ : Type} (binding : Binding) (xs ys : List Json) :
    operands (κ := κ) binding (xs ++ ys) = (operands binding xs).bind fun first =>
      (operands binding ys).map (first ++ ·) := by
  induction xs with
  | nil =>
    rw [List.nil_append]
    cases operands (κ := κ) binding ys <;> rfl
  | cons x rest ih =>
    rw [List.cons_append, operands, operands, ih]
    cases operand (κ := κ) binding x with
    | error e => rfl
    | ok own =>
      cases operands (κ := κ) binding rest with
      | error e => rfl
      | ok others => cases operands (κ := κ) binding ys <;> rfl

section

variable {κ : Type} (type : ValueType) (column : StoredColumn κ) (v : RowView κ)

def listTruth (xs : List Json) : Checked Truth :=
  (operands (bindingFor type column.storage) xs).map
    (Predicate.evalWithin v (leftSide type column))

theorem listTruth_append (xs ys : List Json) :
    listTruth type column v (xs ++ ys) = (listTruth type column v xs).bind fun s =>
      (listTruth type column v ys).map s.or := by
  unfold listTruth
  rw [operands_append]
  cases operands (κ := κ) (bindingFor type column.storage) xs with
  | error e => rfl
  | ok first =>
    cases operands (κ := κ) (bindingFor type column.storage) ys with
    | error e => rfl
    | ok others =>
      exact congrArg Except.ok (Predicate.evalWithin_append v (leftSide type column) first others)

theorem eval_inList (xs : List Json) : (compile type .inList (.array xs) column).map (Predicate.eval v)
    = listTruth type column v xs := by
  cases xs with
  | nil => rfl
  | cons x rest =>
    have general : compile type .inList (.array (x :: rest)) column
        = (operands (bindingFor type column.storage) (x :: rest)).map
            (Predicate.within (leftSide type column)) := rfl
    rw [general, listTruth]
    cases operands (κ := κ) (bindingFor type column.storage) (x :: rest) <;> rfl

theorem eval_notInList (xs : List Json) :
    (compile type .notInList (.array xs) column).map (Predicate.eval v)
      = (listTruth type column v xs).map Truth.not := by
  cases xs with
  | nil => rfl
  | cons x rest =>
    have general : compile type .notInList (.array (x :: rest)) column
        = (operands (bindingFor type column.storage) (x :: rest)).map
            (Predicate.notWithin (leftSide type column)) := rfl
    rw [general, listTruth]
    cases operands (κ := κ) (bindingFor type column.storage) (x :: rest) <;> rfl

end

/-- What is compiled for two lists one behind the other, by what is compiled for each. -/
structure Composes {κ : Type} (combine : Truth → Truth → Truth)
    (first second both : Checked (Predicate κ)) : Prop where
  passes : (∃ r, both = .ok r) ↔ (∃ p, first = .ok p) ∧ ∃ q, second = .ok q
  /-- The fault is that of the first list that has one. -/
  fault : ∀ e, both = .error e ↔
    first = .error e ∨ (∃ p, first = .ok p) ∧ second = .error e
  truth : ∀ p q r, first = .ok p → second = .ok q → both = .ok r →
    ∀ v : RowView κ, r.eval v = combine (p.eval v) (q.eval v)

theorem composes_of_truth {κ : Type} {combine : Truth → Truth → Truth}
    {first second both : Checked (Predicate κ)}
    (told : ∀ v : RowView κ, both.map (Predicate.eval v) = (first.map (Predicate.eval v)).bind
      fun s => (second.map (Predicate.eval v)).map (combine s)) :
    Composes combine first second both := by
  have blank := told ⟨fun _ => .null, fun _ => .none⟩
  cases first with
  | error e =>
    cases both with
    | error e' => cases blank; constructor <;> simp
    | ok r => cases blank
  | ok p =>
    cases second with
    | error e =>
      cases both with
      | error e' => cases blank; constructor <;> simp
      | ok r => cases blank
    | ok q =>
      cases both with
      | error e => cases blank
      | ok r =>
        have truth (v : RowView κ) := Except.ok.inj (told v)
        constructor <;> simp_all

variable {κ : Type}

/-- A list of operands that is put behind another one excludes and includes as both lists do: what is
in both together is in one of them, what is in neither is not in both together, and compiling fails
where it does for one of them. This holds for every value of the column, nulls included, and whether
lists are empty or not. -/
theorem lists_compose (type : ValueType) (column : StoredColumn κ) (xs ys : List Json) :
    Composes Truth.or (compile type .inList (.array xs) column)
      (compile type .inList (.array ys) column)
      (compile type .inList (.array (xs ++ ys)) column) ∧
    Composes Truth.and (compile type .notInList (.array xs) column)
      (compile type .notInList (.array ys) column)
      (compile type .notInList (.array (xs ++ ys)) column) := by
  constructor
  · refine composes_of_truth fun v => ?_
    rw [eval_inList, eval_inList, eval_inList, listTruth_append]
  · refine composes_of_truth fun v => ?_
    rw [eval_notInList, eval_notInList, eval_notInList, listTruth_append]
    cases listTruth type column v xs with
    | error e => rfl
    | ok s =>
      cases listTruth type column v ys with
      | error e => rfl
      | ok t => exact congrArg Except.ok (Truth.not_or s t)

theorem lists_compose_null : ∃ p q r : Predicate String,
    compile .number .notInList (.array []) ⟨"amount", .text⟩ = .ok p ∧
    compile .number .notInList (.array [.int 1, .text " 2.5"]) ⟨"amount", .text⟩ = .ok q ∧
    compile .number .notInList (.array ([] ++ [.int 1, .text " 2.5"])) ⟨"amount", .text⟩ = .ok r ∧
    r.eval ⟨fun _ => .null, fun _ => .text⟩ = Truth.and .yes .unknown := by
  obtain ⟨p, first⟩ : ∃ p : Predicate String,
      compile .number .notInList (.array []) ⟨"amount", .text⟩ = .ok p := ⟨.always, rfl⟩
  obtain ⟨q, second⟩ : ∃ q : Predicate String, compile .number .notInList
      (.array [.int 1, .text " 2.5"]) ⟨"amount", .text⟩ = .ok q := ⟨_, rfl⟩
  have composes := (lists_compose .number (⟨"amount", .text⟩ : StoredColumn String) []
    [.int 1, .text " 2.5"]).2
  obtain ⟨r, both⟩ := composes.passes.mpr ⟨⟨p, first⟩, q, second⟩
  refine ⟨p, q, r, first, second, both, ?_⟩
  rw [composes.truth p q r first second both]
  cases first
  cases second
  rfl

end Filter

end Analytics
