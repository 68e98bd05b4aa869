import CallPlan.Step

/-!
# CallPlan.Tracker

Reporting the steps of one task.

* A tracker keeps the steps of a task in the order of their creation, and hands every new or changed
  step to an observer, if it has one.
* An observer has a state of its own and may fail; its failure goes no further. What the tracker
  records never depends on the observer.
-/

namespace CallPlan

/-- Someone who is told of every new or changed step, with the position of the step. The result says
whether the observer coped; a failure is its own affair. -/
abbrev Observer (ω : Type) := Nat → Step → ω → ω × Except String Unit

/-- The steps of a task so far, and who is told of them. -/
structure Tracker (ω : Type) where
  task : String
  /-- The identifier of the step at each position. -/
  ids : Nat → String
  steps : List Step
  observer : Option (Observer ω)
  /-- What the observer has made of the steps so far. -/
  seen : ω

namespace Tracker

variable {ω : Type}

/-- A tracker without steps. -/
def fresh (task : String) (ids : Nat → String) (observer : Option (Observer ω)) (seen : ω) :
    Tracker ω :=
  ⟨task, ids, [], observer, seen⟩

/-- Tells the observer of a step. -/
def emit (tracker : Tracker ω) (position : Nat) (step : Step) : Tracker ω :=
  match tracker.observer with
  | some observer => { tracker with seen := (observer position step tracker.seen).1 }
  | none => tracker

/-- Adds a step that begins now. -/
def start (tracker : Tracker ω) (kind : StepKind) (content : StepContent) (now : DateTime) :
    Tracker ω :=
  let position := tracker.steps.length
  let step := Step.start (tracker.ids position) tracker.task kind content now
  { tracker with steps := tracker.steps ++ [step] }.emit position step

/-- Changes the step at a position, if there is one. -/
def update (tracker : Tracker ω) (position : Nat) (change : Step → Step) : Tracker ω :=
  match tracker.steps[position]? with
  | some step =>
    { tracker with steps := tracker.steps.set position (change step) }.emit position (change step)
  | none => tracker

/-- The step at a position ends now with success. -/
def complete (tracker : Tracker ω) (position : Nat) (result : Json) (now : DateTime) : Tracker ω :=
  tracker.update position (·.complete result now)

/-- The step at a position ends now with a failure. -/
def fail (tracker : Tracker ω) (position : Nat) (message : Json) (now : DateTime) : Tracker ω :=
  tracker.update position (·.fail message now)

/-- The step at a position ends, at a time that has no date. The observer is not told. -/
def endUndated (tracker : Tracker ω) (position : Nat) (status : StepStatus) : Tracker ω :=
  { tracker with steps := tracker.steps.modify position (·.endUndated status) }

/-! ## The steps of a turn -/

/-- The request is being understood. -/
def understanding (tracker : Tracker ω) (now : DateTime) : Tracker ω :=
  tracker.start .understanding {} now

/-- A plan has been made. -/
def planning (tracker : Tracker ω) (reasoning : String) (calls : Option (List PlannedCall))
    (now : DateTime) : Tracker ω :=
  tracker.start .planning { reasoning := some reasoning, plannedTools := calls } now

/-- A skill has been used; without a name of its own it goes by its identifier. -/
def skillUsage (tracker : Tracker ω) (id : String) (name : Option String) (now : DateTime) :
    Tracker ω :=
  let shown := if name.getD "" = "" then id else name.getD ""
  tracker.start .skillUsage { skillId := some id, skillName := some shown } now

/-- A tool is being executed. -/
def toolExecution (tracker : Tracker ω) (tool : String) (arguments : Members) (now : DateTime) :
    Tracker ω :=
  tracker.start .toolExecution { tool := some tool, arguments := some arguments } now

/-- The turn is complete. -/
def completion (tracker : Tracker ω) (now : DateTime) : Tracker ω :=
  tracker.start .completion {} now

/-- The position that an index stands for, if there is a step; a negative one counts from the
end. -/
def position? (tracker : Tracker ω) (index : Int) : Option Nat :=
  let position := if index < 0 then index + tracker.steps.length else index
  if 0 ≤ position && position < tracker.steps.length then some position.toNat else none

/-- The position of the step added last. -/
def lastPosition (tracker : Tracker ω) : Nat := tracker.steps.length - 1

end Tracker

end CallPlan
