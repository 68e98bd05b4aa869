import CallPlan.Execution

/-!
# CallPlan.Proofs.Execution.Log

What a run asks of the tool runtime.

* A host that keeps more in its world `Simulates` another one if both behave alike on what the other
  one sees of that world. A run is then the same on both (`execute_seen`).
* `Host.logged` is a host that keeps, beside its world, a log of the invocations so far;
  `invocations` is the log of a whole run.
* Keeping a log changes nothing: outcome, world and tracker are those of the host itself
  (`execute_logged`).
-/

namespace CallPlan

/-- What the tool runtime was asked, and what came back. -/
structure Invocation where
  tool : String
  arguments : Members
  returned : Except Failure CallResult

variable {σ τ ω : Type}

/-! ### Seeing less of the world -/

/-- A host behaves as another one does on what that one sees of its world. -/
structure Host.Simulates (fine : Host τ) (coarse : Host σ) (view : τ → σ) : Prop where
  invoke : ∀ tool arguments world, coarse.invoke tool arguments (view world)
    = ((fine.invoke tool arguments world).1, view (fine.invoke tool arguments world).2)
  now : ∀ world, coarse.now (view world) = fine.now world
  clock : ∀ world, coarse.clock (view world) = fine.clock world
  cancelled : ∀ world, coarse.cancelled (view world) = fine.cancelled world

/-- The state of a run with what is seen of its world. -/
def RunState.seen (view : τ → σ) (state : RunState τ ω) : RunState σ ω :=
  ⟨view state.world, state.tracker, state.results⟩

namespace Execution

section
variable {fine : Host τ} {coarse : Host σ} {view : τ → σ}

theorem unresolvable_seen (sim : fine.Simulates coarse view) (index : Nat) (call : PlannedCall)
    (message : String) (state : RunState τ ω) :
    unresolvable coarse index call message (state.seen view)
      = ((unresolvable fine index call message state).1,
        (unresolvable fine index call message state).2.seen view) := by
  simp only [unresolvable, RunState.seen, sim.now]
  split <;> rfl

theorem settle_seen (sim : fine.Simulates coarse view) (index : Nat) (tool : String)
    (started : Int) (returned : Except Failure CallResult) (state : RunState τ ω) :
    settle coarse index tool started returned (state.seen view)
      = ((settle fine index tool started returned state).1,
        (settle fine index tool started returned state).2.seen view) := by
  cases returned with
  | error failure => simp only [settle, RunState.seen, sim.now]
  | ok result =>
      simp only [settle, RunState.seen, sim.now, sim.clock]
      split <;> rfl

theorem invokeCall_seen (sim : fine.Simulates coarse view) (index : Nat) (tool : String)
    (arguments : Members) (state : RunState τ ω) :
    invokeCall coarse index tool arguments (state.seen view)
      = ((invokeCall fine index tool arguments state).1,
        (invokeCall fine index tool arguments state).2.seen view) := by
  unfold invokeCall
  rw [RunState.seen, sim.now, sim.invoke, sim.clock]
  cases report state.tracker (fine.now state.world) (fun now t => t.toolExecution tool arguments now)
      id with
  | mk lapse tracker =>
      cases lapse with
      | some ending => rfl
      | none => exact settle_seen sim index tool _ _ ⟨_, tracker, state.results⟩

theorem runCall_seen (sim : fine.Simulates coarse view) (deadline : Option Deadline) (index : Nat)
    (call : PlannedCall) (state : RunState τ ω) :
    runCall coarse deadline index call (state.seen view)
      = ((runCall fine deadline index call state).1,
        (runCall fine deadline index call state).2.seen view) := by
  have stopped_eq : stopped coarse deadline (state.seen view).world
      = stopped fine deadline state.world := by
    simp only [stopped, RunState.seen, sim.cancelled, sim.clock]
  have results_eq : (state.seen view).results = state.results := rfl
  unfold runCall
  rw [stopped_eq, results_eq]
  by_cases h : stopped fine deadline state.world
  · simp only [if_pos h]
  · simp only [if_neg h]
    cases substituteArguments call.arguments state.results with
    | ok arguments => exact invokeCall_seen sim index call.tool arguments state
    | error cause =>
        cases cause with
        | longIndex long => rfl
        | noResult reference count => simp only [unresolvable_seen sim]
        | noField reference tool => simp only [unresolvable_seen sim]

theorem runFrom_seen (sim : fine.Simulates coarse view) (deadline : Option Deadline) (index : Nat)
    (calls : List PlannedCall) (state : RunState τ ω) :
    runFrom coarse deadline index calls (state.seen view)
      = ((runFrom fine deadline index calls state).1,
        (runFrom fine deadline index calls state).2.seen view) := by
  induction calls generalizing index state with
  | nil => rfl
  | cons call rest ih =>
      rw [runFrom, runFrom, runCall_seen sim]
      cases runCall fine deadline index call state with
      | mk ending state' =>
          cases ending with
          | some ending => rfl
          | none => exact ih (index + 1) state'

end

end Execution

/-- A run on a host is the same on one that simulates it. -/
theorem execute_seen {fine : Host τ} {coarse : Host σ} {view : τ → σ}
    (sim : fine.Simulates coarse view) (plan : ToolCalls) (deadline : Option Deadline)
    (tracker : Option (Tracker ω)) (world : τ) :
    execute coarse plan deadline tracker (view world)
      = ((execute fine plan deadline tracker world).1,
        view (execute fine plan deadline tracker world).2.1,
        (execute fine plan deadline tracker world).2.2) := by
  have start : (⟨view world, tracker, []⟩ : RunState σ ω)
      = RunState.seen view ⟨world, tracker, []⟩ := rfl
  unfold execute
  rw [start, Execution.runFrom_seen sim]
  rfl

/-! ### The log of a run -/

/-- A host that logs its invocations. -/
def Host.logged (host : Host σ) : Host (σ × List Invocation) where
  invoke tool arguments world :=
    let (returned, after) := host.invoke tool arguments world.1
    (returned, after, world.2 ++ [⟨tool, arguments, returned⟩])
  now world := host.now world.1
  clock world := host.clock world.1
  cancelled world := host.cancelled world.1

theorem Host.log_of_invoke {host : Host σ} {tool : String} {arguments : Members}
    {returned : Except Failure CallResult} {before after : σ × List Invocation}
    (h : host.logged.invoke tool arguments before = (returned, after)) :
    after.2 = before.2 ++ [⟨tool, arguments, returned⟩] := by
  cases h
  rfl

/-- The last invocation in the log is the one that was just made. -/
theorem Host.last_of_invoke {host : Host σ} {tool : String} {arguments : Members}
    {returned : Except Failure CallResult} {before after : σ × List Invocation}
    {prior : List Invocation} {invocation : Invocation}
    (h : host.logged.invoke tool arguments before = (returned, after))
    (log_eq : after.2 = prior ++ [invocation]) :
    before.2 = prior ∧ ⟨tool, arguments, returned⟩ = invocation := by
  rw [Host.log_of_invoke h] at log_eq
  obtain ⟨earlier, last⟩ := List.append_inj' log_eq rfl
  exact ⟨earlier, List.head_eq_of_cons_eq last⟩

theorem Host.logged_simulates (host : Host σ) : host.logged.Simulates host Prod.fst :=
  ⟨fun _ _ _ => rfl, fun _ => rfl, fun _ => rfl, fun _ => rfl⟩

/-- The invocations of a run, in order. -/
def invocations (host : Host σ) (plan : ToolCalls) (deadline : Option Deadline)
    (tracker : Option (Tracker ω)) (world : σ) : List Invocation :=
  (execute host.logged plan deadline tracker (world, [])).2.1.2

/-- The state of a run without the log. -/
def RunState.unlogged (state : RunState (σ × List Invocation) ω) : RunState σ ω :=
  ⟨state.world.1, state.tracker, state.results⟩

theorem Execution.runFrom_logged (host : Host σ) (deadline : Option Deadline) (index : Nat)
    (calls : List PlannedCall) (state : RunState (σ × List Invocation) ω) :
    runFrom host deadline index calls state.unlogged
      = ((runFrom host.logged deadline index calls state).1,
        (runFrom host.logged deadline index calls state).2.unlogged) :=
  runFrom_seen host.logged_simulates deadline index calls state

/-- A run is the same whether its invocations are logged or not. -/
theorem execute_logged (host : Host σ) (plan : ToolCalls) (deadline : Option Deadline)
    (tracker : Option (Tracker ω)) (world : σ) (log : List Invocation) :
    execute host plan deadline tracker world
      = ((execute host.logged plan deadline tracker (world, log)).1,
        (execute host.logged plan deadline tracker (world, log)).2.1.1,
        (execute host.logged plan deadline tracker (world, log)).2.2) :=
  execute_seen host.logged_simulates plan deadline tracker (world, log)

end CallPlan
