import CallPlan.Validation
import CallPlan.Resolve

/-!
# CallPlan.Failure

Failures that end a turn.

A failure names its cause: the model call, the plan document, the tool runtime, a plan that cannot
be checked, or something that a collaborator came up with on its own. Failures of the model are told
apart from all others, because a turn explains some of them.
-/

namespace CallPlan

/-- How a value lacks the shape that is relied on. -/
inductive ShapeFault where
  /-- It has no operation of the name asked for. -/
  | operation
  /-- It is not of a kind that can be used this way. -/
  | kind
  /-- It is a list without an item at the position. -/
  | position
  /-- It is an object without the key. -/
  | key
  deriving DecidableEq, Inhabited

/-- Why a turn, or a part of it, came to nothing. -/
inductive Failure where
  /-- Something failed and nothing more is said. -/
  | general (message : String)
  /-- The planning or responding model call failed. -/
  | planner (message : String)
  /-- The planner's text holds no plan document. -/
  | planText (message : String)
  /-- The planner's document is not a plan. -/
  | planShape (issues : List Issue)
  /-- The tool runtime could not be reached. -/
  | toolRuntime (message : String)
  /-- A tool cannot be run, or failed. -/
  | toolExecution (message : String)
  /-- A reference has no value. -/
  | reference (message : String)
  /-- A plan is not accepted. -/
  | violation (v : Violation)
  /-- A plan could not be checked to its end. -/
  | unchecked (cause : Unchecked)
  /-- A record could not be made of some values. -/
  | invalid (issues : List Issue)
  /-- No planner goes by this name. -/
  | unknownPlanner (name : String)
  /-- A tool of this name is already registered. -/
  | duplicateTool (name : String)
  /-- A reply that should be JSON is not: its fault and what is said about it. -/
  | notJson (fault : JsonFault) (message : String)
  /-- A text is no address. -/
  | badAddress (message : String)
  /-- A value is refused, and what is said about it. -/
  | unsuitable (message : String)
  /-- A text has characters that its encoding lacks. -/
  | unencodable (message : String)
  /-- A point in time or a number is beyond what can be represented. -/
  | beyondRange
  /-- A value does not have the shape that is relied on. -/
  | shape (fault : ShapeFault)
  /-- A collaborator failed in a way of its own: the kind and the text of its failure. -/
  | foreign (kind message : String)
  deriving DecidableEq, Inhabited

namespace Failure

/-- What a failure says. -/
def message : Failure → String
  | .general message | .planner message | .planText message | .toolRuntime message
  | .toolExecution message | .reference message | .notJson _ message | .badAddress message
  | .unsuitable message | .unencodable message | .foreign _ message => message
  | .planShape _ => "Invalid plan: "
  | .violation v => v.message
  | .unchecked (.longIndex index) => index.message
  | .unchecked (.longType long) => long.message
  | .unchecked (.fieldSchema _) => ""
  | .unknownPlanner name => "Planner '" ++ name ++ "' is not registered."
  | .duplicateTool name => "Tool '" ++ name ++ "' is already registered."
  | .invalid _ | .shape _ | .beyondRange => ""

/-- Whether a failure is one of the model: a call that failed, or a text that is no plan. -/
def isPlanner : Failure → Bool
  | .planner _ | .planText _ | .planShape _ => true
  | _ => false

/-- The failure of a plan that is not accepted. -/
def ofRejection : Rejection → Failure
  | .violation v => .violation v
  | .unchecked cause => .unchecked cause

/-- The failure of a value with a number that is too long to be written. -/
def ofLongNumber (long : LongNumber) : Failure := .unsuitable long.message

/-- The failure of a reference without a value. -/
def ofUnresolved : Unresolved → Failure
  | .longIndex index => .unchecked (.longIndex index)
  | cause => .reference cause.message

end Failure

end CallPlan
