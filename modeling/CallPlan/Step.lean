import CallPlan.Envelope
import CallPlan.Plan

/-!
# CallPlan.Step

The steps of a turn, as they are reported while it runs.

* A step is about understanding the request, planning, the use of a skill, the execution of a tool,
  or the completion of the turn. Only the execution of a tool takes time; every other step is
  complete when it is created.
* A step starts pending or in progress and ends completed or failed. Ending it again is possible:
  the last end counts, and the message of an earlier failure stays.
-/

namespace CallPlan

/-- How far a step is. -/
inductive StepStatus where
  | pending
  | inProgress
  | completed
  | failed
  deriving DecidableEq, Inhabited

/-- What a step is about. -/
inductive StepKind where
  | understanding
  | planning
  | skillUsage
  | toolExecution
  | completion
  deriving DecidableEq, Inhabited

namespace StepStatus

/-- The word for a status. -/
def word : StepStatus → String
  | .pending => "pending"
  | .inProgress => "in_progress"
  | .completed => "completed"
  | .failed => "failed"

/-- The status that a word names. -/
def ofWord? (s : String) : Option StepStatus :=
  [pending, inProgress, completed, failed].find? (·.word = s)

end StepStatus

namespace StepKind

/-- The word for a kind of step. -/
def word : StepKind → String
  | .understanding => "understanding"
  | .planning => "planning"
  | .skillUsage => "skill_usage"
  | .toolExecution => "tool_execution"
  | .completion => "completion"

/-- The kind of step that a word names. -/
def ofWord? (s : String) : Option StepKind :=
  [understanding, planning, skillUsage, toolExecution, completion].find? (·.word = s)

/-- Whether steps of a kind are complete when they are created. -/
def isInstant : StepKind → Bool
  | .toolExecution => false
  | _ => true

end StepKind

/-- What a step says beyond its kind. -/
structure StepContent where
  reasoning : Option String := none
  plannedTools : Option (List PlannedCall) := none
  skillId : Option String := none
  skillName : Option String := none
  tool : Option String := none
  arguments : Option Members := none
  deriving DecidableEq, Inhabited

namespace StepContent

/-- Reads the content of a step. -/
def check (ms : Members) : Checked StepContent :=
  let text (key : String) := Record.optional ms key none (Record.nullable Record.text)
  StepContent.mk <$> text "reasoning"
    <*> Record.optional ms "planned_tools" none (Record.nullable (Record.list PlannedCall.check))
    <*> text "skill_id" <*> text "skill_name" <*> text "tool_name"
    <*> Record.optional ms "tool_arguments" none (Record.nullable Record.members)

end StepContent

/-- One step of a turn. -/
structure Step where
  id : String
  task : String
  kind : StepKind
  status : StepStatus
  startedAt : DateTime
  completedAt : Option DateTime
  /-- How long the step took, in milliseconds. -/
  duration : Option Int
  /-- What went wrong, or null. -/
  errorMessage : Json
  content : StepContent
  /-- The structured content of the output of a tool. -/
  result : Json
  deriving DecidableEq, Inhabited

namespace Step

/-- What the user sees of a step. -/
def title (step : Step) : String :=
  match step.kind with
  | .understanding => "Analyzing request..."
  | .planning => "Planning response..."
  | .skillUsage => "Using " ++ step.content.skillName.getD "None" ++ " skill..."
  | .toolExecution => "Running " ++ step.content.tool.getD "None" ++ "..."
  | .completion => "Complete"

/-- A step that begins now. -/
def start (id task : String) (kind : StepKind) (content : StepContent) (now : DateTime) : Step :=
  let instant := kind.isInstant
  { id, task, kind, content
    status := if instant then .completed else .inProgress
    startedAt := now
    completedAt := if instant then some now else none
    duration := if instant then some 0 else none
    errorMessage := .null
    result := .null }

/-- A step that ends now. -/
def finish (step : Step) (status : StepStatus) (now : DateTime) : Step :=
  { step with
    status
    completedAt := some now
    duration := some (Binary64.ofMicros (now.micros - step.startedAt.micros)).wholeMillis }

/-- A step that ends now with success; a tool execution keeps its result unless that is null. -/
def complete (step : Step) (result : Json) (now : DateTime) : Step :=
  let step := step.finish .completed now
  if result ≠ .null ∧ step.kind = .toolExecution then { step with result } else step

/-- A step that ends now with a failure; its message is a text as a rule. -/
def fail (step : Step) (message : Json) (now : DateTime) : Step :=
  { step.finish .failed now with errorMessage := message }

/-- A step whose end cannot be dated: its status is all that changes. -/
def endUndated (step : Step) (status : StepStatus) : Step := { step with status }

/-- A point in time as a JSON value. -/
def timeJson : Option DateTime → Json
  | some t => .str t.text
  | none => .null

/-- A step as a JSON value. -/
def toJson (step : Step) : Json :=
  .obj [("step_id", .str step.id), ("task_id", .str step.task), ("step_type", .str step.kind.word),
    ("status", .str step.status.word), ("started_at", .str step.startedAt.text),
    ("completed_at", timeJson step.completedAt), ("duration_ms", Json.ofInt? step.duration),
    ("error_message", step.errorMessage),
    ("reasoning", Json.ofText? step.content.reasoning),
    ("planned_tools",
      match step.content.plannedTools with
      | some calls => .arr (calls.map PlannedCall.toJson)
      | none => .null),
    ("skill_id", Json.ofText? step.content.skillId),
    ("skill_name", Json.ofText? step.content.skillName),
    ("tool_name", Json.ofText? step.content.tool),
    ("tool_arguments",
      match step.content.arguments with
      | some ms => .obj ms
      | none => .null),
    ("tool_result", step.result)]

/-- The values of any shape in a step. -/
def values (step : Step) : List Json :=
  step.result :: ((step.content.arguments.getD []).map Prod.snd ++
    (step.content.plannedTools.getD []).flatMap PlannedCall.values)

/-- Reads a step. -/
def check (origin : Origin) (fresh : Fresh) : Json → Checked Step :=
  Record.object fun ms =>
    (fun id task kind status startedAt completedAt duration errorMessage content result =>
        Step.mk id task kind status startedAt completedAt duration errorMessage content result)
      <$> Record.optional ms "step_id" fresh.id Record.text
      <*> Record.required ms "task_id" Record.text
      <*> Record.required ms "step_type" (Record.word StepKind.ofWord? .enumError)
      <*> Record.optional ms "status" .pending (Record.word StepStatus.ofWord? .enumError)
      <*> Record.optional ms "started_at" fresh.now (Record.dateTime origin)
      <*> Record.optional ms "completed_at" none (Record.nullable (Record.dateTime origin))
      <*> Record.optional ms "duration_ms" none (Record.nullable Record.int)
      <*> Record.optional ms "error_message" .null (Json.ofText? <$> Record.nullable Record.text ·)
      <*> StepContent.check ms
      <*> Record.optional ms "tool_result" .null Record.any

end Step

end CallPlan
