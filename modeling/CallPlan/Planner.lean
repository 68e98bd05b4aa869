import CallPlan.Planner.Prompt
import CallPlan.Planner.Extract
import CallPlan.Failure

/-!
# CallPlan.Planner

Asking a model, twice a turn at most: for a plan, and for the final reply.

* A `PlanMaker` makes plans, a `ReplyWriter` writes replies, each in its own way. A model does both.
* A `Model` completes a prompt in a world of any type. Its text is taken for a plan document after
  the object in it has been found; for a reply, blanks around it are dropped and an empty one is a
  failure. There is no second attempt. Where a model gives another value than a text, it is no
  reply, and a plan only if it consists of texts.
-/

namespace CallPlan

/-- Who makes the plan for a request, given the tools that may be called. -/
structure PlanMaker (σ : Type) where
  plan : (request : Json) → Registry → σ → Except Failure Plan × σ

/-- Who writes the reply to a request, given an account of what was found or done. -/
structure ReplyWriter (σ : Type) where
  respond : (request account : Json) → σ → Except Failure String × σ

/-- A model: its completion for instructions and a text, where `structured` asks for JSON alone.
What is meant to be a text, the completion as well, is any value. -/
structure Model (σ : Type) where
  complete : (instructions text : Json) → (structured : Bool) → σ → Except Failure Json × σ

namespace Planner

/-- The texts that a list consists of, or the keys of an object. -/
def pieces? : Json → Option (List String)
  | .arr items => items.mapM fun item =>
    match item with
    | .str text => some text
    | _ => none
  | .obj members => some (Members.keys members)
  | _ => none

/-- The plan document in what a model wrote. -/
def findDocument (completion : Json) : Except Failure String :=
  let told (found : Except ExtractError String) : Except Failure String :=
    found.mapError fun cause => .planText cause.message
  match completion with
  | .str text => told (Extract.object text)
  | _ =>
    match pieces? completion with
    | some pieces =>
      if pieces.contains (String.ofList Extract.fence) then .error (.shape .kind)
      else told (Extract.objectIn pieces)
    | none => .error (.shape .kind)

/-- The plan in what a model wrote. -/
def readPlan (completion : Json) : Except Failure Plan := do
  match Plan.parse (← findDocument completion) with
  | .ok plan => return plan
  | .refused issues => throw (.planShape issues)

/-- The reply in what a model wrote. -/
def readReply : Json → Except Failure String
  | .str text =>
    let reply := Text.strip text
    if reply = "" then .error (.planner "Empty response from model during synthesis")
    else .ok reply
  | _ => .error (.shape .operation)

end Planner

namespace Model

variable {σ : Type}

/-- Asks a model for a plan; it is not asked if the registered tools cannot be told about. -/
def plan (model : Model σ) (request : Json) (registry : Registry) (world : σ) :
    Except Failure Plan × σ :=
  match Prompt.withTools registry with
  | .error long => (.error (.ofLongNumber long), world)
  | .ok instructions =>
    let (completion, world) := model.complete (.str instructions) request true world
    (completion.bind Planner.readPlan, world)

/-- Asks a model for the final reply; it is not asked if the request or the account cannot be
written. -/
def respond (model : Model σ) (request account : Json) (world : σ) : Except Failure String × σ :=
  match Prompt.respondInput request account with
  | .error long => (.error (.ofLongNumber long), world)
  | .ok input =>
    let (completion, world) := model.complete (.str Prompt.responding) (.str input) false world
    (completion.bind Planner.readReply, world)

instance : Coe (Model σ) (PlanMaker σ) := ⟨fun model => ⟨model.plan⟩⟩

instance : Coe (Model σ) (ReplyWriter σ) := ⟨fun model => ⟨model.respond⟩⟩

end Model

end CallPlan
