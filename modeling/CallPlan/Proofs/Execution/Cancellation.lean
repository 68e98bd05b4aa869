import CallPlan.Proofs.Execution.Outcome

/-!
# CallPlan.Proofs.Execution.Cancellation

What a run does that is cancelled: exactly what it would have done with fewer calls and no signal.

* `Execution.Reaches` is the state of a run at the check before a call. A run halts there as
  cancelled just if the check fires (`runFrom_eq_cancelled_iff`).
* A call that passes does not see the signals: it passes in the same way on a host on which nothing
  is ever cancelled, and without a deadline (`runCall_uninterrupted`). So the calls before a
  cancellation, taken as a plan of their own, complete with the same results
  (`Reaches.uninterrupted`).
* `Host.watched` notes the world in which each invocation starts. None starts in a world in which
  the run is to stop (`runFrom_watched`).

The world changes in invocations only, so a check always sees what the invocation before it left.
-/

namespace CallPlan

variable {σ ω : Type}

/-- A host on which nothing is ever cancelled. -/
def Host.uninterrupted (host : Host σ) : Host σ := { host with cancelled := fun _ => false }

/-- A plan cut off before the call of an index. -/
def ToolCalls.upTo (plan : ToolCalls) (k : Nat) : ToolCalls :=
  { plan with calls := plan.calls.take k }

namespace Execution

/-! ### The check before a call -/

/-- The state of a run at the check before the call of an index: the calls before it have been run
and passed. -/
inductive Reaches (host : Host σ) (deadline : Option Deadline) (calls : List PlannedCall)
    (start : RunState σ ω) : Nat → RunState σ ω → Prop where
  | start : Reaches host deadline calls start 0 start
  | pass {k : Nat} {call : PlannedCall} {before after : RunState σ ω}
      (prior : Reaches host deadline calls start k before) (called : calls[k]? = some call)
      (passes : runCall host deadline k call before = (none, after)) :
      Reaches host deadline calls start (k + 1) after

section
variable {host : Host σ} {deadline : Option Deadline} {calls : List PlannedCall}
  {start state after : RunState σ ω} {k : Nat}

/-- A run goes on from a call that it reaches. -/
theorem Reaches.runFrom_eq (h : Reaches host deadline calls start k state) :
    runFrom host deadline 0 calls start = runFrom host deadline k (calls.drop k) state := by
  induction h with
  | start => rfl
  | @pass k call before after prior called passes ih =>
      have rest : calls.drop k = call :: calls.drop (k + 1) := by
        obtain ⟨inside, rfl⟩ := List.getElem?_eq_some_iff.1 called
        exact List.drop_eq_getElem_cons inside
      rw [ih, rest, runFrom, passes]

/-- A run reaches the call at which it ends, or all calls pass. -/
theorem exists_reaches_end (prior : Reaches host deadline calls start k state) :
    (∃ state', Reaches host deadline calls start calls.length state' ∧
        runFrom host deadline 0 calls start = (.finished, state')) ∨
      ∃ n call state' ending after, Reaches host deadline calls start n state' ∧
        calls[n]? = some call ∧ runCall host deadline n call state' = (some ending, after) ∧
        runFrom host deadline 0 calls start = (ending, after) := by
  rw [prior.runFrom_eq]
  -- on the calls that are left
  generalize left : calls.drop k = rest
  induction rest generalizing k state with
  | nil =>
      have all : k = calls.length := by
        refine Nat.le_antisymm ?_ (List.drop_eq_nil_iff.1 left)
        cases prior with
        | start => exact Nat.zero_le _
        | pass prior called passes => exact (List.getElem?_eq_some_iff.1 called).1
      exact .inl ⟨state, all ▸ prior, rfl⟩
  | cons call rest ih =>
      have called : calls[k]? = some call := by
        rw [← List.head?_drop, left, List.head?_cons]
      have left' : calls.drop (k + 1) = rest := by
        rw [← List.tail_drop, left, List.tail_cons]
      cases step : runCall host deadline k call state with
      | mk ending after =>
          cases ending with
          | some ending =>
              refine .inr ⟨k, call, state, ending, after, prior, called, step, ?_⟩
              rw [runFrom, step]
          | none =>
              rw [runFrom, step]
              exact ih (prior.pass called step) left'

/-- A run halts as cancelled at the call that it reaches, just if it is to stop there. -/
theorem runFrom_eq_cancelled_iff :
    runFrom host deadline 0 calls start = (.halted k .cancelled, state) ↔
      Reaches host deadline calls start k state ∧ k < calls.length ∧
        stopped host deadline state.world = true := by
  constructor
  · intro h
    rcases exists_reaches_end (.start : Reaches host deadline calls start 0 start) with
      ⟨state', -, run⟩ | ⟨n, call, state', ending, after, reached, called, step, run⟩
    · rw [h] at run
      cases run
    · rw [h] at run
      cases run
      have cases_of_step := runCall_step host deadline n call state'
      rw [step] at cases_of_step
      cases cases_of_step with
      | cancelled stop => exact ⟨reached, (List.getElem?_eq_some_iff.1 called).1, stop⟩
  · rintro ⟨reached, inside, stop⟩
    rw [reached.runFrom_eq, List.drop_eq_getElem_cons inside, runFrom, runCall, if_pos stop]

/-- A call that passes is not cancelled, and the signals have no other influence on it. -/
theorem runCall_uninterrupted {call : PlannedCall}
    (passes : runCall host deadline k call state = (none, after)) :
    runCall host.uninterrupted none k call state = (none, after) := by
  rw [runCall] at passes
  split at passes
  · cases passes
  · exact passes

/-- Calls that pass before a cancellation pass as a plan of their own without any signal. -/
theorem Reaches.uninterrupted {n : Nat} (h : Reaches host deadline calls start k state)
    (upTo : k ≤ n) : Reaches host.uninterrupted none (calls.take n) start k state := by
  induction h with
  | start => exact .start
  | @pass k call before after prior called passes ih =>
      refine (ih (Nat.le_of_succ_le upTo)).pass ?_ (runCall_uninterrupted passes)
      rw [List.getElem?_take_of_lt upTo, called]

theorem Reaches.runFrom_take (h : Reaches host deadline calls start k state) :
    runFrom host.uninterrupted none 0 (calls.take k) start = (.finished, state) := by
  rw [(h.uninterrupted (Nat.le_refl k)).runFrom_eq, List.drop_take, Nat.sub_self, List.take_zero,
    runFrom]

end

/-- The calls that have passed before a check were all invoked, and none of them failed. -/
theorem Reaches.answered {host : Host σ} {deadline : Option Deadline} {calls : List PlannedCall}
    {start state : RunState (σ × List Invocation) ω} {k : Nat}
    (h : Reaches host.logged deadline calls start k state)
    (fresh : Answered [] start.world.2 start.results) :
    Answered (calls.take k) state.world.2 state.results := by
  induction h with
  | start => exact fresh
  | @pass k call before after prior called passes ih =>
      have step := runCall_step host.logged deadline k call before
      rw [passes] at step
      cases step with
      | @passed arguments returned world tracker duration resolved invoked succeeded kept =>
          obtain ⟨inside, rfl⟩ := List.getElem?_eq_some_iff.1 called
          have length : (calls.take k).length = k := by simp [Nat.le_of_lt inside]
          have answered : Answered (calls.take k ++ [calls[k]]) _
              (before.results ++ [.ofCall (calls.take k).length calls[k].tool returned duration]) :=
            ih.snoc resolved succeeded
          rw [length] at answered
          dsimp only
          rw [Host.log_of_invoke invoked, List.take_succ_eq_append_getElem inside]
          exact answered

end Execution

/-! ### The starts of invocations -/

/-- A host that notes for each invocation the world in which it starts. -/
def Host.watched (host : Host σ) : Host (σ × List (σ × Invocation)) where
  invoke tool arguments world :=
    let (returned, after) := host.invoke tool arguments world.1
    (returned, after, world.2 ++ [(world.1, ⟨tool, arguments, returned⟩)])
  now world := host.now world.1
  clock world := host.clock world.1
  cancelled world := host.cancelled world.1

/-- The invocations of a run with the worlds in which they start, in order. -/
def starts (host : Host σ) (plan : ToolCalls) (deadline : Option Deadline)
    (tracker : Option (Tracker ω)) (world : σ) : List (σ × Invocation) :=
  (execute host.watched plan deadline tracker (world, [])).2.1.2

/-- The starts of invocations are those of the invocations of the run. -/
theorem map_snd_starts (host : Host σ) (plan : ToolCalls) (deadline : Option Deadline)
    (tracker : Option (Tracker ω)) (world : σ) :
    (starts host plan deadline tracker world).map Prod.snd
      = invocations host plan deadline tracker world := by
  have sim : host.watched.Simulates host.logged fun world => (world.1, world.2.map Prod.snd) := by
    refine ⟨fun tool arguments world => ?_, fun _ => rfl, fun _ => rfl, fun _ => rfl⟩
    simp [Host.watched, Host.logged]
  have seen := execute_seen sim plan deadline tracker (world, [])
  exact (congrArg (·.2.1.2) seen).symm

namespace Execution

section
variable {host : Host σ} {deadline : Option Deadline}

theorem start_of_invoke {tool : String} {arguments : Members}
    {returned : Except Failure CallResult} {before after : σ × List (σ × Invocation)}
    (h : host.watched.invoke tool arguments before = (returned, after)) :
    after.2 = before.2 ++ [(before.1, ⟨tool, arguments, returned⟩)] := by
  cases h
  rfl

/-- A call notes at most one start, in the world of its check. -/
theorem CallStep.watched {index : Nat} {call : PlannedCall}
    {before after : RunState (σ × List (σ × Invocation)) ω} {ending : Option RunEnd}
    (h : CallStep host.watched deadline index call before ending after) :
    after.world.2 = before.world.2 ∨
      ∃ invocation, after.world.2 = before.world.2 ++ [(before.world.1, invocation)] := by
  cases h with
  | cancelled stop => exact .inl rfl
  | longIndex unresolved => exact .inl rfl
  | unresolved unresolved => exact .inl rfl
  | undatedBefore tracked undated => exact .inl rfl
  | raised resolved invoked => exact .inr ⟨_, start_of_invoke invoked⟩
  | undatedAfter resolved invoked tracked undated => exact .inr ⟨_, start_of_invoke invoked⟩
  | wordless resolved invoked unsaid => exact .inr ⟨_, start_of_invoke invoked⟩
  | refused resolved invoked isError said => exact .inr ⟨_, start_of_invoke invoked⟩
  | passed resolved invoked succeeded kept => exact .inr ⟨_, start_of_invoke invoked⟩

/-- No invocation has started in a world in which the run is to stop. -/
def StartsInTime (host : Host σ) (deadline : Option Deadline) (starts : List (σ × Invocation)) :
    Prop :=
  ∀ start ∈ starts, stopped host deadline start.1 = false

theorem runCall_watched (index : Nat) (call : PlannedCall)
    {state : RunState (σ × List (σ × Invocation)) ω}
    (inTime : StartsInTime host deadline state.world.2) :
    StartsInTime host deadline (runCall host.watched deadline index call state).2.world.2 := by
  by_cases stop : stopped host.watched deadline state.world = true
  · rw [runCall, if_pos stop]
    exact inTime
  · rcases (runCall_step host.watched deadline index call state).watched with
      same | ⟨invocation, more⟩
    · rw [same]
      exact inTime
    · have going : stopped host deadline state.world.1 = false := Bool.eq_false_iff.2 stop
      rw [more, StartsInTime, List.forall_mem_append, List.forall_mem_singleton]
      exact ⟨inTime, going⟩

theorem runFrom_watched (index : Nat) (calls : List PlannedCall)
    {state : RunState (σ × List (σ × Invocation)) ω}
    (inTime : StartsInTime host deadline state.world.2) :
    StartsInTime host deadline (runFrom host.watched deadline index calls state).2.world.2 := by
  induction calls generalizing index state with
  | nil => exact inTime
  | cons call rest ih =>
      have next := runCall_watched index call inTime
      rw [runFrom]
      cases step : runCall host.watched deadline index call state with
      | mk ending after =>
          rw [step] at next
          cases ending with
          | some ending => exact next
          | none => exact ih (index + 1) next

end

/-- Only a run that halted as cancelled has an outcome that says so. -/
theorem outcome_eq_cancelled_iff {ending : RunEnd} {results results' : List ExecutionResult}
    {k : Nat} :
    outcome ending results = .ok ⟨results', some k, some .cancelled⟩ ↔
      ending = .halted k .cancelled ∧ results = results' := by
  cases ending with
  | finished => simp [outcome]
  | failed failure => simp [outcome]
  | halted position reason =>
      simp only [outcome, Except.ok.injEq, Outcome.mk.injEq, Option.some.injEq, RunEnd.halted.injEq,
        Int.natCast_inj]
      exact And.comm

end Execution

/-! ### A clean cut -/

/-- What a cancellation does to a run, and what it does not. -/
structure CleanCut (host : Host σ) (plan : ToolCalls) (deadline : Option Deadline)
    (tracker : Option (Tracker ω)) (world : σ) : Prop where
  /-- No invocation starts when the run is cancelled or the deadline has passed. -/
  inTime : ∀ start ∈ starts host plan deadline tracker world,
    host.cancelled start.1 = false ∧
      ∀ limit, deadline = some limit → limit.passed (host.clock start.1) = false
  /-- There are no invocations but these. -/
  all : (starts host plan deadline tracker world).map Prod.snd
    = invocations host plan deadline tracker world
  /-- A run halts as cancelled at a call just if the calls before were run and passed, and the run
  is to stop at the check before this one. -/
  cancelled_iff : ∀ k : Nat,
    (∃ results, (execute host plan deadline tracker world).1
        = .ok ⟨results, some k, some .cancelled⟩) ↔
      ∃ state : RunState (σ × List Invocation) ω,
        Execution.Reaches host.logged deadline plan.calls ⟨(world, []), tracker, []⟩ k state ∧
        Execution.Answered (plan.calls.take k) state.world.2 state.results ∧
        k < plan.calls.length ∧ Execution.stopped host deadline state.world.1 = true
  /-- The run is then that of the calls before without any signal, which completes: the results, the
  world, the tracker and the invocations are the same. -/
  cut : ∀ (k : Nat) (results : List ExecutionResult),
    (execute host plan deadline tracker world).1 = .ok ⟨results, some k, some .cancelled⟩ →
    execute host.uninterrupted (plan.upTo k) none tracker world
        = (.ok ⟨results, none, none⟩, (execute host plan deadline tracker world).2) ∧
      invocations host.uninterrupted (plan.upTo k) none tracker world
        = invocations host plan deadline tracker world

/-- Whatever the plan, the tool runtime, the signals and the tracker: a cancellation is a clean
cut. -/
theorem execute_cut (host : Host σ) (plan : ToolCalls) (deadline : Option Deadline)
    (tracker : Option (Tracker ω)) (world : σ) : CleanCut host plan deadline tracker world := by
  -- what a run comes to, read off the run with a log
  obtain ⟨ending, state, run⟩ : ∃ ending state, Execution.runFrom host.logged deadline 0 plan.calls
    ⟨(world, []), tracker, []⟩ = (ending, state) := ⟨_, _, rfl⟩
  have logged : execute host.logged plan deadline tracker (world, [])
      = (Execution.outcome ending state.results, state.world, state.tracker) := by
    rw [execute, run]
  have plain : execute host plan deadline tracker world
      = (Execution.outcome ending state.results, state.world.1, state.tracker) := by
    rw [execute_logged host plan deadline tracker world [], logged]
  refine ⟨?_, map_snd_starts host plan deadline tracker world, ?_, ?_⟩
  · intro start hmem
    have fresh : Execution.StartsInTime host deadline [] := by simp [Execution.StartsInTime]
    have inTime : Execution.StartsInTime host deadline (starts host plan deadline tracker world) :=
      Execution.runFrom_watched 0 plan.calls fresh
    have going := inTime start hmem
    unfold Execution.stopped at going
    rw [Bool.or_eq_false_iff] at going
    refine ⟨going.1, ?_⟩
    rintro limit rfl
    exact going.2
  · intro k
    rw [plain]
    constructor
    · rintro ⟨results, h⟩
      obtain ⟨rfl, -⟩ := Execution.outcome_eq_cancelled_iff.1 h
      obtain ⟨reached, inside, stop⟩ := Execution.runFrom_eq_cancelled_iff.1 run
      exact ⟨state, reached, reached.answered .nil, inside, stop⟩
    · rintro ⟨state', reached, -, inside, stop⟩
      have run' := Execution.runFrom_eq_cancelled_iff.2 ⟨reached, inside, stop⟩
      obtain ⟨rfl, rfl⟩ := Prod.mk.inj (run.symm.trans run')
      exact ⟨_, rfl⟩
  · intro k results h
    rw [plain] at h
    obtain ⟨rfl, rfl⟩ := Execution.outcome_eq_cancelled_iff.1 h
    obtain ⟨reached, -, -⟩ := Execution.runFrom_eq_cancelled_iff.1 run
    have cut : execute host.logged.uninterrupted (plan.upTo k) none tracker (world, [])
        = (.ok ⟨state.results, none, none⟩, state.world, state.tracker) := by
      rw [execute, ToolCalls.upTo, reached.runFrom_take]
      rfl
    have same : host.logged.uninterrupted = host.uninterrupted.logged := rfl
    rw [same] at cut
    rw [plain, execute_logged host.uninterrupted (plan.upTo k) none tracker world [], invocations,
      invocations, cut, logged]
    exact ⟨rfl, rfl⟩

namespace Sample

/-- A host on which the first invocation cancels the run. -/
def onceHost : Host Bool where
  invoke _ _ _ := (.ok ⟨noRows, [], false⟩, true)
  now _ := .error .beyondRange
  clock _ := 0
  cancelled world := world

end Sample

theorem execute_cut_once :
    ∃ results,
      (execute Sample.onceHost (Sample.plan "all") none (none : Option (Tracker Unit)) false).1
        = .ok ⟨results, some (1 : Nat), some .cancelled⟩ ∧
      execute Sample.onceHost.uninterrupted ((Sample.plan "all").upTo 1) none
          (none : Option (Tracker Unit)) false = (.ok ⟨results, none, none⟩, true, none) ∧
      (invocations Sample.onceHost (Sample.plan "all") none (none : Option (Tracker Unit))
        false).length = 1 :=
  ⟨_, rfl, ((execute_cut Sample.onceHost (Sample.plan "all") none none false).cut 1 _ rfl).1, rfl⟩

end CallPlan
