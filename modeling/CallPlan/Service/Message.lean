import CallPlan.Turn

/-!
# CallPlan.Service.Message

The documents that the service takes and gives: a message and the reply to it, a plan and the
verdict on it, and the list of tools.
-/

namespace CallPlan

/-- A message of a user. -/
structure MessageRequest where
  message : String
  contextId : Option String
  userId : Option String
  deriving DecidableEq, Inhabited

namespace MessageRequest

/-- A message as a JSON value. -/
def toJson (request : MessageRequest) : Json :=
  .obj [("message", .str request.message), ("context_id", Json.ofText? request.contextId),
    ("user_id", Json.ofText? request.userId)]

/-- Reads a message. -/
def checkFields (ms : Members) : Checked MessageRequest :=
  MessageRequest.mk <$> Record.required ms "message" Record.text
    <*> Record.optional ms "context_id" none (Record.nullable Record.text)
    <*> Record.optional ms "user_id" none (Record.nullable Record.text)

end MessageRequest

/-- The reply to a message: what the user reads, and how it came about. -/
structure MessageReply where
  reply : String
  planType : String
  validationError : Option Members
  outcome : Option Outcome
  steps : List Step
  deriving DecidableEq, Inhabited

namespace MessageReply

/-- The reply of a turn. -/
def ofTurn (turn : TurnResult) : MessageReply :=
  ⟨turn.reply, turn.plan.tag, turn.violation.map (·.details), turn.outcome, turn.steps⟩

/-- Whether a reply can be written: nothing in it is nested too deep. -/
def isWritable (reply : MessageReply) : Bool :=
  let values := (reply.outcome.elim [] (·.results)).flatMap ExecutionResult.values ++
    reply.steps.flatMap Step.values
  values.all Json.isWritable

/-- A reply as a JSON value. -/
def toJson (reply : MessageReply) : Json :=
  .obj [("reply", .str reply.reply), ("plan_type", .str reply.planType),
    ("validation_error", (reply.validationError.map Json.obj).getD .null),
    ("outcome", (reply.outcome.map Outcome.toJson).getD .null),
    ("steps", .arr (reply.steps.map Step.toJson))]

/-- Reads a reply. -/
def checkFields (origin : Origin) (fresh : Fresh) (ms : Members) : Checked MessageReply :=
  MessageReply.mk <$> Record.required ms "reply" Record.text
    <*> Record.required ms "plan_type" Record.text
    <*> Record.optional ms "validation_error" none (Record.nullable Record.members)
    <*> Record.optional ms "outcome" none (Record.nullable Outcome.check)
    <*> Record.optional ms "steps" [] (Record.list (Step.check origin fresh))

end MessageReply

/-- A plan to be checked against the registered tools. -/
structure PlanRequest where
  plan : Plan
  deriving DecidableEq, Inhabited

namespace PlanRequest

/-- A plan to be checked as a JSON value. -/
def toJson (request : PlanRequest) : Json := .obj [("plan", request.plan.toJson)]

/-- Reads a plan to be checked. -/
def checkFields (origin : Origin) (ms : Members) : Checked PlanRequest :=
  PlanRequest.mk <$> Record.required ms "plan" (Plan.check origin)

end PlanRequest

/-- The verdict on a plan, with the first violation if there is one. -/
structure Verdict where
  valid : Bool
  error : Option Members
  deriving DecidableEq, Inhabited

namespace Verdict

/-- The verdict on a plan that is accepted. -/
def accepted : Verdict := ⟨true, none⟩

/-- The verdict on a plan with a violation. -/
def rejected (v : Violation) : Verdict := ⟨false, some v.details⟩

/-- A verdict as a JSON value. -/
def toJson (verdict : Verdict) : Json :=
  .obj [("valid", .bool verdict.valid), ("error", (verdict.error.map Json.obj).getD .null)]

/-- Reads a verdict. -/
def checkFields (ms : Members) : Checked Verdict :=
  Verdict.mk <$> Record.required ms "valid" Record.bool
    <*> Record.optional ms "error" none (Record.nullable Record.members)

end Verdict

/-- The declarations of the registered tools. -/
structure ToolList where
  tools : List ToolSchema
  deriving DecidableEq, Inhabited

namespace ToolList

/-- The tools of a registry in the order of their names. -/
def ofRegistry (registry : Registry) : ToolList := ⟨registry.names.filterMap registry.lookup⟩

/-- Whether a list of tools can be written: nothing in it is nested too deep. -/
def isWritable (list : ToolList) : Bool :=
  (list.tools.flatMap fun tool => (tool.input ++ tool.output).map Prod.snd).all Json.isWritable

/-- A list of tools as a JSON value. -/
def toJson (list : ToolList) : Json := .obj [("tools", .arr (list.tools.map ToolSchema.toJson))]

/-- Reads a list of tools. -/
def checkFields (ms : Members) : Checked ToolList :=
  ToolList.mk <$> Record.required ms "tools" (Record.list ToolSchema.check)

end ToolList

end CallPlan
