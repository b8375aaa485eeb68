import Analytics.Filter.Compile
import Analytics.Group.Key
import Analytics.Request.Query

/-!
Planned groups. A raw group splits rows by the values of its field; a custom one by buckets, each the
rows that a predicate accepts. Every combination of one bucket per custom group is counted apart, so
that a row counts once in each bucket that accepts it.
-/

namespace Analytics

/-- A bucket of a custom group. -/
structure Bucket where
  operator : FilterOperator
  value : Json
  literal : String
  title : Ident
  deriving Repr

namespace Bucket

/-- The words for a bucket in the names of series. -/
def label (b : Bucket) : String := b.operator.name ++ " " ++ b.literal

def key (field : String) (b : Bucket) : GroupKey := .bucket field b.operator.name b.literal

end Bucket

inductive GroupForm where
  | raw (title : Ident)
  | custom (buckets : List Bucket)
  deriving Repr

structure GroupPlan where
  field : String
  type : ValueType
  form : GroupForm
  deriving Repr

abbrev Selection := List (Option Nat)

namespace GroupPlan

def isCustom (g : GroupPlan) : Bool :=
  match g.form with
  | .raw _ => false
  | .custom _ => true

/-- The result columns of a group. -/
def titles (g : GroupPlan) : List Ident :=
  match g.form with
  | .raw title => [title]
  | .custom buckets => buckets.map (·.title)

def choices (g : GroupPlan) : Selection :=
  match g.form with
  | .raw _ => [none]
  | .custom buckets => (List.range buckets.length).map some

def operandText : Json → String
  | .text s => s
  | .array items => String.intercalate "," (operandTexts items)
  | other => other.render
where
  operandTexts : List Json → List String
    | [] => []
    | item :: rest => operandText item :: operandTexts rest

def planBucket (field : String) (type : ValueType) (spec : RequestedBucket) : Checked Bucket :=
  match FilterOperator.parse spec.operator type with
  | .error e => .error e
  | .ok operator =>
    let literal := operandText spec.value
    match (GroupKey.bucket field operator.name literal).title with
    | .error fault => .error (.identifier fault)
    | .ok title => .ok ⟨operator, spec.value, literal, title⟩

def planBuckets (field : String) (type : ValueType) : List RequestedBucket → Checked (List Bucket)
  | [] => .ok []
  | spec :: rest =>
    match planBucket field type spec with
    | .error e => .error e
    | .ok bucket => (planBuckets field type rest).map (bucket :: ·)

def ofSpec (spec : RequestedGroup) : Checked GroupPlan :=
  match Ident.checkComponent spec.field with
  | .error fault => .error (.identifier fault)
  | .ok () =>
    match spec.buckets with
    | [] =>
      match (GroupKey.raw spec.field).title with
      | .error fault => .error (.identifier fault)
      | .ok title => .ok ⟨spec.field, spec.type, .raw title⟩
    | specs =>
      (planBuckets spec.field spec.type specs).map fun buckets =>
        ⟨spec.field, spec.type, .custom buckets⟩

end GroupPlan

def combinations {α : Type} : List (List α) → List (List α)
  | [] => [[]]
  | choices :: rest => choices.flatMap fun choice => (combinations rest).map (choice :: ·)

/-- Every combination of one bucket per custom group. -/
def branchSelections (groups : List GroupPlan) : List Selection :=
  combinations (groups.map (·.choices))

def firstRepeated? (seen : List String) : List String → Option String
  | [] => none
  | name :: rest => if seen.contains name then some name else firstRepeated? (name :: seen) rest

def checkDistinct (groups : List GroupPlan) : Checked Unit :=
  match firstRepeated? [] ((groups.flatMap (·.titles)).map (·.text)) with
  | some name => .error (.request (.duplicateGroup name))
  | none => .ok ()

inductive GroupExpr (κ : Type) where
  /-- The value of a column. -/
  | value (c : κ)
  /-- One where the predicate is true, else zero. -/
  | flag (p : Predicate κ)
  /-- Zero, for a bucket that a branch does not count. -/
  | zero
  deriving DecidableEq, Repr

structure GroupColumn (κ : Type) where
  expr : GroupExpr κ
  title : Ident
  deriving Repr

namespace GroupColumn

variable {κ : Type}

def isGrouped (c : GroupColumn κ) : Bool :=
  match c.expr with
  | .zero => false
  | _ => true

def render (name : κ → String) (d : Dialect) (c : GroupColumn κ) : Fragment :=
  let expr := match c.expr with
    | .value column => Fragment.raw (name column)
    | .flag p => (p.render name d).enclose "CASE WHEN " " THEN 1 ELSE 0 END"
    | .zero => Fragment.raw "0"
  expr.andThen (" AS " ++ c.title.quoted)

def ofBuckets (type : ValueType) (column : StoredColumn κ) (pinned : Option Nat) (position : Nat) :
    List Bucket → Checked (List (GroupColumn κ))
  | [] => .ok []
  | b :: rest =>
    let expr : Checked (GroupExpr κ) :=
      if pinned = some position then
        (Filter.compile type b.operator b.value column).map GroupExpr.flag
      else .ok .zero
    match expr with
    | .error e => .error e
    | .ok expr =>
      (ofBuckets type column pinned (position + 1) rest).map (⟨expr, b.title⟩ :: ·)

def ofPlan (g : GroupPlan) (column : StoredColumn κ) (pinned : Option Nat) :
    Checked (List (GroupColumn κ)) :=
  match g.form with
  | .raw title => .ok [⟨.value column.ref, title⟩]
  | .custom buckets => ofBuckets g.type column pinned 0 buckets

end GroupColumn

end Analytics
