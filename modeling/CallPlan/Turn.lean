import CallPlan.Planner
import CallPlan.Execution
import CallPlan.Summary

/-!
# CallPlan.Turn

One turn of a conversation: plan, check, run, reply.

* A direct answer ends the turn with one model call. A plan that calls tools is checked first; if it
  is not accepted, nothing runs, and otherwise its outcome is kept. In both cases the responder is
  asked, to explain what was found or done.
* Violations of a plan and failures of tools are never the end of a turn; failures of the planner
  and the responder are, and an outcome of which no account can be written is. When the responder
  fails after tools failed, the failure names those of the tools.
* The turn reports its steps: understanding, planning, what the run reports, completion.
-/

namespace CallPlan

/-- What a turn ends with. -/
structure TurnResult where
  reply : String
  plan : Plan
  violation : Option Violation
  outcome : Option Outcome
  modelCalls : Int
  steps : List Step
  deriving DecidableEq, Inhabited

namespace TurnResult

/-- The result of a turn as a JSON value. -/
def toJson (turn : TurnResult) : Json :=
  .obj [("reply", .str turn.reply), ("plan", turn.plan.toJson),
    ("validation_error", ((turn.violation.map fun v => Json.obj v.details)).getD .null),
    ("outcome", (turn.outcome.map Outcome.toJson).getD .null), ("ai_calls", .int turn.modelCalls),
    ("steps", .arr (turn.steps.map Step.toJson))]

end TurnResult

/-- Whom a turn works with. -/
structure Collaborators (σ : Type) where
  host : Host σ
  planner : PlanMaker σ
  /-- Writes the replies; often the model that is the planner. -/
  responder : ReplyWriter σ
  registry : Registry

namespace Turn

variable {σ ω : Type}

/-- The failure of a turn whose responder failed after a run. -/
def respondFailure (outcome : Outcome) (failure : Failure) : Failure :=
  if failure.isPlanner && !outcome.failed.isEmpty then
    match outcome.failed.mapM ExecutionResult.errorMessage with
    | .ok messages =>
      .planner ("Tool execution failed: " ++ "; ".intercalate (messages.map (·.getD "")))
    | .error long => .ofLongNumber long
  else failure

/-- Goes on with the present time, if it can be told. -/
def dated {α : Type} (who : Collaborators σ) (tracker : Tracker ω) (world : σ)
    (next : DateTime → Except Failure α × σ × Tracker ω) : Except Failure α × σ × Tracker ω :=
  match who.host.now world with
  | .ok now => next now
  | .error failure => (.error failure, world, tracker)

/-- A turn whose plan was not accepted: the responder explains the violation. -/
def explain (who : Collaborators σ) (request : Json) (plan : ToolCalls) (v : Violation)
    (tracker : Tracker ω) (world : σ) : Except Failure TurnResult × σ × Tracker ω :=
  match who.responder.respond request (.str v.failureText) world with
  | (.error failure, world) => (.error failure, world, tracker)
  | (.ok reply, world) => dated who tracker world fun now =>
    let tracker := tracker.completion now
    (.ok ⟨reply, .tools plan, some v, none, 2, tracker.steps⟩, world, tracker)

/-- A turn whose plan was accepted: it is run, and the responder accounts for the outcome. -/
def carryOut (who : Collaborators σ) (request : Json) (plan : ToolCalls)
    (deadline : Option Deadline) (tracker : Tracker ω) (world : σ) :
    Except Failure TurnResult × σ × Tracker ω :=
  let (result, world, reported) := execute who.host plan deadline (some tracker) world
  let tracker := reported.getD tracker
  match result with
  | .error failure => (.error failure, world, tracker)
  | .ok outcome => dated who tracker world fun now =>
    let tracker := tracker.completion now
    match Summary.text plan outcome with
    | .error long => (.error (.ofLongNumber long), world, tracker)
    | .ok account =>
      match who.responder.respond request (.str account) world with
      | (.error failure, world) => (.error (respondFailure outcome failure), world, tracker)
      | (.ok reply, world) =>
        (.ok ⟨reply, .tools plan, none, some outcome, 2, tracker.steps⟩, world, tracker)

/-- A turn for which a plan has been made. -/
def follow (who : Collaborators σ) (request : Json) (plan : Plan) (deadline : Option Deadline)
    (tracker : Tracker ω) (world : σ) : Except Failure TurnResult × σ × Tracker ω :=
  dated who tracker world fun now =>
    match plan with
    | .direct content =>
      let tracker := tracker.planning "Direct response - no tools needed" none now
      let tracker := tracker.completion now
      (.ok ⟨content, plan, none, none, 1, tracker.steps⟩, world, tracker)
    | .tools calls =>
      let tracker := tracker.planning calls.reasoning (some calls.calls) now
      match validate calls who.registry with
      | .ok () => carryOut who request calls deadline tracker world
      | .error (.violation v) => explain who request calls v tracker world
      | .error (.unchecked cause) => (.error (.unchecked cause), world, tracker)

end Turn

/-- Runs a turn in a world: its result, and the world and the tracker afterwards. No call starts
once `timeout` seconds have passed, unless it says nothing. -/
def runTurn {σ ω : Type} (who : Collaborators σ) (request timeout : Json) (tracker : Tracker ω)
    (world : σ) : Except Failure TurnResult × σ × Tracker ω :=
  match Deadline.after timeout (who.host.clock world) with
  | .error failure => (.error failure, world, tracker)
  | .ok deadline => Turn.dated who tracker world fun now =>
    let tracker := tracker.understanding now
    match who.planner.plan request who.registry world with
    | (.error failure, world) => (.error failure, world, tracker)
    | (.ok plan, world) => Turn.follow who request plan deadline tracker world

end CallPlan
