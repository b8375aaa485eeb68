import Analytics.Zone.Basic
import Analytics.Zone.Season

/-!
The history of a zone: eras of one standard time each, and the transitions they amount to.
-/

namespace Analytics.Zone

inductive Saving where
  | fixed (seconds : Int)
  | rules (rules : List SeasonRule)
  deriving Repr

structure EraEnd where
  year : Nat
  month : Nat
  day : DayRule
  time : Int
  clock : Clock
  deriving DecidableEq, Repr

/-- A stretch of history with one standard offset; the last one does not end. -/
structure Era where
  standard : Int
  saving : Saving
  ends : Option EraEnd
  deriving Repr

namespace EraEnd

def cutoff (e : EraEnd) : Cutoff :=
  ⟨DayRule.toDay e.year e.month e.day * 86400 + e.time, e.clock⟩

end EraEnd

/-- Follows changes to the end of an era. Gives the saving in force at the end, and the transitions
made. -/
def follow (standard : Int) (ends : Option Cutoff) (saving : Int) : List Change → Int × List Transition
  | [] => (saving, [])
  | c :: rest =>
    let moment := c.cutoff.seconds standard saving
    let past : Bool := match ends with
      | some e => e.seconds standard saving ≤ moment
      | none => false
    if past then (saving, [])
    else
      let (final, after) := follow standard ends c.saving rest
      (final, ⟨moment, standard + c.saving⟩ :: after)

/-- An era from its start: the saving in force at its end, and its transitions. Changes by the start
only decide the offset that the start itself sets. -/
def Era.transitions (era : Era) (start : Option Int) : Int × List Transition :=
  let ends := era.ends.map (·.cutoff)
  match era.saving with
  | .fixed s => (s, (start.map fun t => ⟨t, era.standard + s⟩).toList)
  | .rules rules =>
    let (saving, made) := follow era.standard ends 0 (changes rules)
    match start with
    | none => (saving, made)
    | some t =>
      let before := made.takeWhile (·.at_ ≤ t)
      let offset := (before.getLast?.map (·.offset)).getD era.standard
      (saving, ⟨t, offset⟩ :: made.dropWhile (·.at_ ≤ t))

def eraTransitions (start : Option Int) : List Era → List Transition
  | [] => []
  | era :: rest =>
    let (saving, made) := era.transitions start
    let next := era.ends.map fun e => e.cutoff.seconds era.standard saving
    made ++ eraTransitions next rest

/-- Adds a transition to those made, newest first. A change that sets the offset in force is
dropped, and so is the last change when the new one comes no later on local clocks than that change
came. -/
def settleStep (settled : List Transition) (t : Transition) : List Transition :=
  match settled with
  | last :: before :: older =>
    if t.at_ + last.offset ≤ last.at_ + before.offset then
      { last with offset := t.offset } :: before :: older
    else if last.offset = t.offset then settled
    else t :: settled
  | [last] => if last.offset = t.offset then settled else [t, last]
  | [] => [t]

def settle (initial : Int) (ts : List Transition) : List Transition :=
  match (ts.foldl settleStep []).reverse with
  | first :: rest => if first.offset = initial then rest else first :: rest
  | [] => []

def ofEras (name : String) (eras : List Era) : Zone :=
  let initial := match eras with
    | ⟨standard, .fixed s, _⟩ :: _ => standard + s
    | ⟨standard, .rules _, _⟩ :: _ => standard
    | [] => 0
  ⟨name, initial, settle initial (eraTransitions none eras)⟩

end Analytics.Zone
