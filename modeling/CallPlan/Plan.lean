import CallPlan.Record.Checked
import CallPlan.Json.Reader

/-!
# CallPlan.Plan

Plans: what a model decides to do with a request.

* A plan is a direct answer, or an ordered list of tool calls. The position of a call is the index
  by which later calls refer to its output.
* `Plan.check` reads a plan from a JSON value, `Plan.parse` from a text, `Plan.ofGiven` from either;
  `Plan.toJson` writes it.
* The variants are told apart by the key `type`. Issues inside a variant are located below its tag.
-/

namespace CallPlan

/-- One tool call of a plan. Texts inside the arguments may be references to earlier outputs. -/
structure PlannedCall where
  tool : String
  arguments : Members
  deriving DecidableEq, Inhabited

/-- A plan that calls tools. -/
structure ToolCalls where
  reasoning : String
  calls : List PlannedCall
  deriving DecidableEq, Inhabited

/-- What the model decided: an answer without tools, or calls. -/
inductive Plan where
  | direct (content : String)
  | tools (plan : ToolCalls)
  deriving DecidableEq, Inhabited

namespace PlannedCall

/-- A planned call as a JSON value. -/
def toJson (call : PlannedCall) : Json :=
  .obj [("tool_name", .str call.tool), ("arguments", .obj call.arguments)]

/-- The values of any shape in a planned call. -/
def values (call : PlannedCall) : List Json := call.arguments.map Prod.snd

/-- Reads the fields of a planned call. -/
def checkFields (ms : Members) : Checked PlannedCall :=
  PlannedCall.mk <$> Record.required ms "tool_name" Record.text
    <*> Record.optional ms "arguments" [] Record.members

/-- Reads a planned call. -/
def check : Json → Checked PlannedCall := Record.object checkFields

end PlannedCall

namespace Plan

/-- The tag of direct answers. -/
def directTag : String := "direct_response"

/-- The tag of plans that call tools. -/
def toolsTag : String := "tool_calls"

/-- The tag of a plan. -/
def tag : Plan → String
  | .direct _ => directTag
  | .tools _ => toolsTag

/-- A plan as a JSON value. -/
def toJson : Plan → Json
  | .direct content => .obj [("type", .str directTag), ("content", .str content)]
  | .tools plan =>
    .obj [("type", .str toolsTag), ("reasoning", .str plan.reasoning),
      ("calls", .arr (plan.calls.map PlannedCall.toJson))]

/-- The field `type`, which holds the tag and may be absent. -/
def checkTag (ms : Members) (tag : String) : Checked Unit :=
  Record.optional ms "type" ()
    (Record.word (fun s => if s = tag then some () else none) .literalError)

/-- Reads the fields of a direct answer: its content. -/
def checkDirectFields (ms : Members) : Checked String :=
  (fun _ content => content) <$> checkTag ms directTag <*> Record.required ms "content" Record.text

/-- What a call is named that is no object. -/
def callKind (origin : Origin) : IssueKind :=
  if origin = .body then .modelAttributesType else .modelType

/-- Reads the fields of a plan that calls tools. -/
def checkToolsFields (origin : Origin) (ms : Members) : Checked ToolCalls :=
  (fun _ reasoning calls => ToolCalls.mk reasoning calls) <$> checkTag ms toolsTag
    <*> Record.optional ms "reasoning" "" Record.text
    <*> Record.optional ms "calls" []
      (Record.list (Record.objectOr (callKind origin) PlannedCall.checkFields))

/-- Reads a plan: the tag decides the variant. -/
def check (origin : Origin) : Json → Checked Plan
  | .obj ms =>
    match Members.get? ms "type" with
    | none => .issue .unionTagNotFound
    | some (.str tag) =>
      if tag = directTag then (Plan.direct <$> checkDirectFields ms).within (.key directTag)
      else if tag = toolsTag then (Plan.tools <$> checkToolsFields origin ms).within (.key toolsTag)
      else .issue .unionTagInvalid
    | some _ => .issue .unionTagInvalid
  | _ =>
    if origin = .text then .issue .dictType else .issue .modelAttributesType

/-- Reads a plan from the text of a document. -/
def parse (text : String) : Checked Plan :=
  if !Text.isPaired text then .issue .stringUnicode
  else match Json.readStrict? text with
  | some value => check .text value
  | none => .issue .jsonInvalid

/-- Reads a plan from what is given for one: the text of a document, or a value. -/
def ofGiven : Json → Checked Plan
  | .str text => parse text
  | value => check .value value

end Plan

end CallPlan
