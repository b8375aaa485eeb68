import Analytics.Query.Branch
import Analytics.Query.Plan

/-!
Sources of events. A source says where the events of an insight are and how the parts of a request
read them; `build` makes the statement of a checked request over any source.
-/

namespace Analytics

structure Source where
  relation : Relation
  dates : DateSource Column
  /-- The column that holds event names, where there is one. -/
  eventName : Option Column
  /-- The column whose values tell sessions apart, where there is one. -/
  session : Option Column
  /-- Set where joins can repeat a row of an event; events are then told apart by the column. -/
  eventId : Option Column
  joins : List Join
  /-- Conditions that every request on the source has. -/
  scope : List Condition
  /-- The column that the group at a place reads. -/
  groupColumn : Nat → GroupPlan → Checked (StoredColumn Column)
  filter : PlannedFilter → Checked Condition

namespace Source

def eventRows : Ident := ⟨"e", rfl⟩

def eventOf (s : Source) (m : PlannedMetric) : Checked (Option (Column × String)) :=
  if m.countsEvery then .ok none
  else match s.eventName with
    | some column => .ok (some (column, m.name))
    | none => .error (.request (.noEventName m.name))

def countedOf (s : Source) (m : PlannedMetric) : Checked (Option Column) :=
  match m.math with
  | .events => .ok s.eventId
  | .sessions =>
    match s.session with
    | some column => .ok (some column)
    | none => .error (.request (.noSession m.name))

def metric (s : Source) (m : PlannedMetric) : Checked MetricColumn :=
  match s.eventOf m with
  | .error e => .error e
  | .ok event => (s.countedOf m).map fun counted => ⟨⟨counted, event⟩, m.title⟩

def groupColumns (s : Source) (index : Nat) :
    List GroupPlan → Selection → Checked (List (GroupColumn Column))
  | [], _ => .ok []
  | g :: rest, selection =>
    match s.groupColumn index g with
    | .error e => .error e
    | .ok column =>
      match GroupColumn.ofPlan g column selection.head?.join with
      | .error e => .error e
      | .ok columns => (s.groupColumns (index + 1) rest selection.tail).map (columns ++ ·)

def eventCondition (s : Source) (p : QueryPlan) : Checked Condition :=
  if p.countsEvery then .ok (.plain .always)
  else match s.eventName with
    | some column =>
      .ok (.plain (.within (.column column) (p.eventNames.map fun name => .bound (.text name))))
    | none => .error (.request .noEventNameForAny)

def conditions (s : Source) (p : QueryPlan) : Checked (List Condition) :=
  match s.eventCondition p with
  | .error e => .error e
  | .ok event =>
    (checkAll s.filter p.filters).map fun filters =>
      s.scope ++ .plain (s.dates.range p.window) :: event :: filters

def branch (s : Source) (p : QueryPlan) (selection : Selection) : Checked Branch :=
  match checkAll s.metric p.metrics with
  | .error e => .error e
  | .ok metrics =>
    match s.groupColumns 0 p.groups selection with
    | .error e => .error e
    | .ok groups =>
      (s.conditions p).map fun conditions =>
        ⟨s.dates.label p.window, metrics, groups, s.relation, s.joins, conditions⟩

/-- The statement of a request: a branch for each combination of buckets. -/
def build (s : Source) (p : QueryPlan) : Checked SeriesStatement :=
  (checkAll (s.branch p) (branchSelections p.groups)).map SeriesStatement.mk

/-- Whether a request stops the program: dates stand for the time column, clocks cannot show those of
the window, and nothing before them refuses the first branch. -/
def stops (s : Source) (p : QueryPlan) : Bool :=
  (s.dates.chosen p.window).2 = .date && !p.window.showsDates &&
    match branchSelections p.groups with
    | [] => false
    | selection :: _ =>
      (checkAll s.metric p.metrics).isOk && (s.groupColumns 0 p.groups selection).isOk

end Source

end Analytics
