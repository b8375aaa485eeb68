import Analytics.Proofs.Series.Shapes
import Analytics.Source.Listing

/-!
Dialects and statements. The values that a statement binds are those of its parts in the order of the
text, whatever dialect it is written in. Main statement: written in two dialects, a request fails with
one fault, or has the same parameters and, in every branch, the same result columns.
-/

namespace Analytics

namespace Fragment

@[simp] theorem binds_append (f g : Fragment) : (f ++ g).binds = f.binds ++ g.binds := rfl

@[simp] theorem binds_andThen (f : Fragment) (s : String) : (f.andThen s).binds = f.binds := rfl

@[simp] theorem binds_raw (s : String) : (raw s).binds = [] := rfl

@[simp] theorem binds_enclose (before behind : String) (f : Fragment) :
    (f.enclose before behind).binds = f.binds := by
  simp [enclose]

@[simp] theorem binds_join (separator : String) (fs : List Fragment) :
    (join separator fs).binds = fs.flatMap binds := by
  induction fs with
  | nil => rfl
  | cons f rest ih =>
    cases rest with
    | nil => simp [join]
    | cons g rest => simp only [join, binds_append, binds_andThen, ih, List.flatMap_cons]

@[simp] theorem binds_conjunction (fs : List Fragment) :
    (conjunction fs).binds = fs.flatMap binds := by
  cases fs with
  | nil => rfl
  | cons f rest =>
    rw [conjunction, binds_join, List.flatMap_map]
    · simp only [binds_enclose]
    · exact List.cons_ne_nil f rest

end Fragment

namespace Scalar

variable {κ : Type}

def values : Scalar κ → List Bind
  | column _ => []
  | bound value => [value]
  | number e => e.values
  | timestamp e => e.values
  | date e => e.values

@[simp] theorem binds_render (name : κ → String) (d : Dialect) (e : Scalar κ) :
    (e.render name d).binds = e.values := by
  induction e with
  | column c => rfl
  | bound value => rfl
  | number e ih => exact ih
  | timestamp e ih => exact ih
  | date e ih => exact ih

end Scalar

namespace Predicate

variable {κ : Type}

def values : Predicate κ → List Bind
  | always | never | isNull _ | isNotNull _ => []
  | compare _ left right => left.values ++ right.values
  | both first second => first.values ++ second.values
  | within item items | notWithin item items => item.values ++ items.flatMap Scalar.values
  | like _ pattern | notLike _ pattern => [.text pattern]

@[simp] theorem binds_render (name : κ → String) (d : Dialect) (p : Predicate κ) :
    (p.render name d).binds = p.values := by
  have listed (word : String) (item : Scalar κ) (items : List (Scalar κ)) :
      (renderList name d word item items).binds = item.values ++ items.flatMap Scalar.values := by
    simp [renderList, List.flatMap_map]
  induction p with
  | both first second ih₁ ih₂ => simp [render, values, ih₁, ih₂]
  | compare comparison left right => simp [render, values]
  | within item items => exact listed "IN" item items
  | notWithin item items => exact listed "NOT IN" item items
  | notLike c pattern => simp [render, renderLike, values, Fragment.placeholder]
  | _ => rfl

end Predicate

def Count.values {κ : Type} (c : Count κ) : List Bind := (c.event.map fun e => .text e.2).toList

@[simp] theorem Count.binds_render {κ : Type} (name : κ → String) (c : Count κ) :
    (c.render name).binds = c.values := by
  obtain ⟨distinct, event⟩ := c
  cases event <;> rfl

def GroupColumn.values {κ : Type} (c : GroupColumn κ) : List Bind :=
  match c.expr with
  | .flag p => p.values
  | _ => []

@[simp] theorem GroupColumn.binds_render {κ : Type} (name : κ → String) (d : Dialect)
    (c : GroupColumn κ) : (c.render name d).binds = c.values := by
  obtain ⟨expr, title⟩ := c
  cases expr <;> simp [render, values]

def Condition.values : Condition → List Bind
  | plain p => p.values
  | linked _ link p => link.values ++ p.values

@[simp] theorem Condition.binds_render (d : Dialect) (c : Condition) :
    (c.render d).binds = c.values := by
  cases c <;> simp [render, values]

namespace Branch

def values (b : Branch) : List Bind :=
  b.metrics.flatMap (·.count.values) ++ b.groups.flatMap GroupColumn.values ++
    b.joins.flatMap (·.link.values) ++ b.conditions.flatMap Condition.values

theorem binds_joins (d : Dialect) (joins : List Join) (f : Fragment) :
    ((joins.map (Join.render d)).foldl (· ++ ·) f).binds
      = f.binds ++ joins.flatMap (·.link.values) := by
  induction joins generalizing f with
  | nil => simp
  | cons j rest ih =>
    rw [List.map_cons, List.foldl_cons, ih, Fragment.binds_append, Join.render, List.flatMap_cons,
      List.append_assoc]
    simp

@[simp] theorem binds_render (d : Dialect) (b : Branch) : (b.render d).binds = b.values := by
  have metrics : b.metrics.flatMap (fun m => m.render.binds) = b.metrics.flatMap (·.count.values) := by
    simp [MetricColumn.render]
  have groups : b.groups.flatMap (fun c => (c.render Column.render d).binds)
      = b.groups.flatMap GroupColumn.values := by
    simp
  have conditions : b.conditions.flatMap (fun c => (c.render d).binds)
      = b.conditions.flatMap Condition.values := by
    simp
  have source : (b.source d).binds = b.joins.flatMap (·.link.values) := binds_joins d b.joins _
  simp only [render, selected, values, Fragment.binds_append, Fragment.binds_andThen,
    Fragment.binds_raw, Fragment.binds_join, Fragment.binds_conjunction, List.flatMap_cons,
    List.flatMap_append, List.flatMap_map, List.nil_append, source, metrics, groups, conditions]

end Branch

namespace SeriesStatement

def values (s : SeriesStatement) : List Bind := s.branches.flatMap Branch.values

theorem params_render (d : Dialect) (s : SeriesStatement) : (s.render d).params = s.values := by
  simp [render, Fragment.toStatement, values, List.flatMap_map]

end SeriesStatement

namespace Listing

/-- The values that the statement of a page binds: those of its conditions, the key that the page is
behind, and the limit. -/
def values (l : Listing) (after : Option Int) : List Bind :=
  l.conditions.flatMap Condition.values ++ (after.map Bind.int).toList ++ [.int l.limit]

theorem params_statement (d : Dialect) (l : Listing) (after : Option Int) :
    (l.statement d after).params = l.values after := by
  cases after <;>
    simp [statement, Fragment.toStatement, values, filter, behind, Predicate.values, Scalar.values,
      List.flatMap_map, Fragment.bound]

end Listing

/-- The statement of a request in a dialect. -/
def Source.write (d : Dialect) (s : Source) (p : QueryPlan) : Checked Statement :=
  (s.build p).map (·.render d)

def EventListRequest.write (d : Dialect) (r : EventListRequest) (limit : Int) (after : Option Int) :
    Checked Statement :=
  (r.listing limit).map (·.statement d after)

theorem EventListRequest.listing_columns (r : EventListRequest) {limit : Int} {l : Listing}
    (listed : r.listing limit = .ok l) : l.columns = columns := by
  unfold listing at listed
  split at listed
  · cases listed
  · obtain ⟨filters, _, rfl⟩ := map_ok listed
    rfl

/-- Whether two ways to write a statement agree but for its text: they fail with one fault, or bind
the same parameters and read as branches of the same result columns. -/
inductive AgreeButText (columns : List (List String)) : Checked Statement → Checked Statement → Prop
  | fault (e : Error) : AgreeButText columns (.error e) (.error e)
  | written {s s' : Statement} (params : s.params = s'.params)
    (read : Reading.columns s.sql = columns) (read' : Reading.columns s'.sql = columns) :
    AgreeButText columns (.ok s) (.ok s')

/-- Every request over every source, and every request for a listing, is written alike in all
dialects but for the text. -/
theorem dialects_agree :
    (∀ {q : InsightQuery} {limit : Nat} {p : QueryPlan}, q.plan limit = .ok p →
      ∀ (source : Source) (d d' : Dialect),
        AgreeButText ((branchSelections p.groups).map fun _ => p.columnNames)
          (source.write d p) (source.write d' p)) ∧
    (∀ (r : EventListRequest) (limit : Int) (after : Option Int) (d d' : Dialect),
      AgreeButText [EventListRequest.columns.map (·.name.text)]
        (r.write d limit after) (r.write d' limit after)) := by
  constructor
  · intro q limit p planned source d d'
    unfold Source.write
    cases built : source.build p with
    | error e => exact .fault e
    | ok s =>
      have filled := Source.built_filled (InsightQuery.passes planned) built
      have names : s.branches.map (·.columnNames)
          = (branchSelections p.groups).map fun _ => p.columnNames :=
        (matched_map ((Source.built_shaped built).imp fun _ _ own => own.names.symm)).symm
      have read (d : Dialect) : Reading.columns (s.render d).sql
          = (branchSelections p.groups).map fun _ => p.columnNames :=
        (SeriesStatement.columns_read filled (Source.built_sound planned built d)).trans names
      exact .written (by rw [s.params_render, s.params_render]) (read d) (read d')
  · intro r limit after d d'
    unfold EventListRequest.write
    cases listed : r.listing limit with
    | error e => exact .fault e
    | ok l =>
      have columns : l.columns = EventListRequest.columns := r.listing_columns listed
      have read (d : Dialect) : Reading.columns (l.statement d after).sql
          = [EventListRequest.columns.map (·.name.text)] := by
        rw [Listing.columns_read d after (columns ▸ List.cons_ne_nil _ _), Listing.columnNames,
          columns]
      exact .written (by rw [l.params_statement, l.params_statement]) (read d) (read d')

theorem dialects_agree_sample : ∃ p s s', sampleRequest.plan 10 = .ok p ∧
    (Resolved.internal.source p).write .sqlite p = .ok s ∧
      (Resolved.internal.source p).write .postgres p = .ok s' ∧ s.sql ≠ s'.sql ∧
        s.params = s'.params ∧ Reading.columns s.sql = Reading.columns s'.sql ∧
          Reading.columns s'.sql = [p.columnNames, p.columnNames] := by
  obtain ⟨p, statement, planned, built⟩ := sampleRequest_builds
  have read : ((sampleRequest.plan 10).toOption.all fun p =>
      ((Resolved.internal.source p).build p).toOption.all fun statement =>
        (statement.render .sqlite).sql != (statement.render .postgres).sql &&
          (branchSelections p.groups).length == 2) = true := by decide +kernel
  simp only [planned, built, Except.toOption, Option.all_some, Bool.and_eq_true, bne_iff_ne,
    beq_iff_eq] at read
  obtain ⟨differ, two⟩ := read
  have agree := dialects_agree.1 planned (Resolved.internal.source p) .sqlite .postgres
  have written (d : Dialect) : (Resolved.internal.source p).write d p = .ok (statement.render d) := by
    rw [Source.write, built]
    rfl
  rw [written, written] at agree
  cases agree with
  | written params columns columns' =>
    refine ⟨p, _, _, planned, written .sqlite, written .postgres, differ, params,
      columns.trans columns'.symm, ?_⟩
    rw [columns', List.map_const', two]
    rfl

end Analytics
