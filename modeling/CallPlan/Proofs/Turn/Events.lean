import CallPlan.Turn
import CallPlan.Proofs.Execution.Log

/-!
# CallPlan.Proofs.Turn.Events

What a turn asks of those it works with.

* `Collaborators.logged` work as before and log, beside their world, what each of them was asked and
  answered; `turnEvents` is the log of a whole turn.
* Keeping a log changes nothing (`runTurn_logged`). In a run that is part of a turn the tool runtime
  is asked for the invocations of that run, and no one else is asked for anything
  (`execute_noting`).
-/

namespace CallPlan

/-- What a collaborator was asked, and what it answered. -/
inductive TurnEvent where
  /-- The planner was asked for a plan. -/
  | planned (request : Json) (registry : Registry) (returned : Except Failure Plan)
  /-- The tool runtime was asked to run a tool. -/
  | invoked (invocation : Invocation)
  /-- The responder was asked for a reply. -/
  | responded (request account : Json) (returned : Except Failure String)

namespace TurnEvent

def isPlanned : TurnEvent → Bool
  | planned .. => true
  | _ => false

def isInvoked : TurnEvent → Bool
  | invoked _ => true
  | _ => false

def isResponded : TurnEvent → Bool
  | responded .. => true
  | _ => false

end TurnEvent

variable {σ ω : Type}

/-! ### Logging -/

/-- A host that notes its invocations among the events of a turn. -/
def Host.noting (host : Host σ) : Host (σ × List TurnEvent) where
  invoke tool arguments world :=
    let (returned, after) := host.invoke tool arguments world.1
    (returned, after, world.2 ++ [.invoked ⟨tool, arguments, returned⟩])
  now world := host.now world.1
  clock world := host.clock world.1
  cancelled world := host.cancelled world.1

/-- Collaborators that log what they are asked. -/
def Collaborators.logged (who : Collaborators σ) : Collaborators (σ × List TurnEvent) where
  host := who.host.noting
  planner :=
    { plan := fun request registry world =>
        let (returned, after) := who.planner.plan request registry world.1
        (returned, after, world.2 ++ [.planned request registry returned]) }
  responder :=
    { respond := fun request account world =>
        let (returned, after) := who.responder.respond request account world.1
        (returned, after, world.2 ++ [.responded request account returned]) }
  registry := who.registry

/-- What was asked in a turn, in order. -/
def turnEvents (who : Collaborators σ) (request timeout : Json) (tracker : Tracker ω) (world : σ) :
    List TurnEvent :=
  (runTurn who.logged request timeout tracker (world, [])).2.1.2

/-! ### A run among the events -/

theorem Host.noting_simulates (host : Host σ) : host.noting.Simulates host Prod.fst :=
  ⟨fun _ _ _ => rfl, fun _ => rfl, fun _ => rfl, fun _ => rfl⟩

/-- The invocations of a run come after the events before it. -/
theorem Host.logged_simulates_noting (host : Host σ) (before : List TurnEvent) :
    host.logged.Simulates host.noting
      fun world => (world.1, before ++ world.2.map TurnEvent.invoked) := by
  refine ⟨fun tool arguments world => ?_, fun _ => rfl, fun _ => rfl, fun _ => rfl⟩
  simp [Host.logged, Host.noting]

theorem execute_noting (host : Host σ) (plan : ToolCalls) (deadline : Option Deadline)
    (tracker : Option (Tracker ω)) (world : σ) (before : List TurnEvent) :
    execute host.noting plan deadline tracker (world, before)
      = ((execute host plan deadline tracker world).1,
        ((execute host plan deadline tracker world).2.1,
          before ++ (invocations host plan deadline tracker world).map TurnEvent.invoked),
        (execute host plan deadline tracker world).2.2) := by
  have seen := execute_seen (host.logged_simulates_noting before) plan deadline tracker (world, [])
  rw [List.map_nil, List.append_nil] at seen
  rw [seen, execute_logged host plan deadline tracker world []]
  rfl

/-! ### Forgetting the log -/

namespace Turn

/-- The end of a turn without the log. -/
def unlogged {α : Type} (ended : Except Failure α × (σ × List TurnEvent) × Tracker ω) :
    Except Failure α × σ × Tracker ω :=
  (ended.1, ended.2.1.1, ended.2.2)

variable (who : Collaborators σ)

theorem plan_logged (request : Json) (registry : Registry) (world : σ × List TurnEvent) :
    who.logged.planner.plan request registry world
      = ((who.planner.plan request registry world.1).1,
        ((who.planner.plan request registry world.1).2, world.2 ++
          [.planned request registry (who.planner.plan request registry world.1).1])) := rfl

theorem respond_logged (request account : Json) (world : σ × List TurnEvent) :
    who.logged.responder.respond request account world
      = ((who.responder.respond request account world.1).1,
        ((who.responder.respond request account world.1).2, world.2 ++
          [.responded request account (who.responder.respond request account world.1).1])) := rfl

theorem now_logged (world : σ × List TurnEvent) :
    who.logged.host.now world = who.host.now world.1 := rfl

theorem dated_logged {α : Type} {tracker : Tracker ω} (world : σ × List TurnEvent)
    {next : DateTime → Except Failure α × (σ × List TurnEvent) × Tracker ω}
    {next' : DateTime → Except Failure α × σ × Tracker ω}
    (same : ∀ now, next' now = unlogged (next now)) :
    dated who tracker world.1 next' = unlogged (dated who.logged tracker world next) := by
  unfold dated
  rw [now_logged]
  cases who.host.now world.1 with
  | ok now => exact same now
  | error failure => rfl

theorem explain_logged (request : Json) (plan : ToolCalls) (v : Violation) (tracker : Tracker ω)
    (world : σ × List TurnEvent) :
    explain who request plan v tracker world.1
      = unlogged (explain who.logged request plan v tracker world) := by
  unfold explain
  rw [respond_logged]
  cases who.responder.respond request (.str v.failureText) world.1 with
  | mk returned after =>
      cases returned with
      | error failure => rfl
      | ok reply => exact dated_logged who (after, _) fun now => rfl

theorem carryOut_logged (request : Json) (plan : ToolCalls) (deadline : Option Deadline)
    (tracker : Tracker ω) (world : σ × List TurnEvent) :
    carryOut who request plan deadline tracker world.1
      = unlogged (carryOut who.logged request plan deadline tracker world) := by
  have run := execute_seen who.host.noting_simulates plan deadline (some tracker) world
  have host_eq : who.logged.host = who.host.noting := rfl
  unfold carryOut
  rw [run, host_eq]
  cases execute who.host.noting plan deadline (some tracker) world with
  | mk result rest =>
      cases result with
      | error failure => rfl
      | ok outcome =>
          refine dated_logged who rest.1 fun now => ?_
          dsimp only
          cases Summary.text plan outcome with
          | error long => rfl
          | ok account =>
              dsimp only
              rw [respond_logged]
              cases who.responder.respond request (.str account) rest.1.1 with
              | mk returned after => cases returned <;> rfl

theorem follow_logged (request : Json) (plan : Plan) (deadline : Option Deadline)
    (tracker : Tracker ω) (world : σ × List TurnEvent) :
    follow who request plan deadline tracker world.1
      = unlogged (follow who.logged request plan deadline tracker world) := by
  have registry_eq : who.logged.registry = who.registry := rfl
  refine dated_logged who world fun now => ?_
  cases plan with
  | direct content => rfl
  | tools calls =>
      dsimp only
      rw [registry_eq]
      cases validate calls who.registry with
      | ok _ => exact carryOut_logged who request calls deadline _ world
      | error refusal =>
          cases refusal with
          | violation v => exact explain_logged who request calls v _ world
          | unchecked cause => rfl

end Turn

/-- A turn is the same whether it is logged or not. -/
theorem runTurn_logged (who : Collaborators σ) (request timeout : Json) (tracker : Tracker ω)
    (world : σ × List TurnEvent) :
    runTurn who request timeout tracker world.1
      = Turn.unlogged (runTurn who.logged request timeout tracker world) := by
  have clock_eq : who.logged.host.clock world = who.host.clock world.1 := rfl
  have registry_eq : who.logged.registry = who.registry := rfl
  unfold runTurn
  rw [clock_eq, registry_eq]
  cases Deadline.after timeout (who.host.clock world.1) with
  | error failure => rfl
  | ok deadline =>
      refine Turn.dated_logged who world fun now => ?_
      rw [Turn.plan_logged]
      cases who.planner.plan request who.registry world.1 with
      | mk returned after =>
          cases returned with
          | error failure => rfl
          | ok plan => exact Turn.follow_logged who request plan deadline _ (after, _)

end CallPlan
