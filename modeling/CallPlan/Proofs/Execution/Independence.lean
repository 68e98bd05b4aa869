import CallPlan.Proofs.Execution.Outcome
import CallPlan.Proofs.Json.Leaves

/-!
# CallPlan.Proofs.Execution.Independence

Calls see only the outputs they name.

* `Reference.read?` is all that a reference reads of some results, and substitution reads no more of
  them than the references in the arguments do (`substituteArguments_of_agree`).
* A result that was recorded stays as it is (`runFrom_results_grow`). So a call was invoked with what
  its references stand for in the results of the whole run (`resolved_of_invoked`), though most of
  them came later.
* Hence two runs in which the references of a call read the same invoke it with the same arguments,
  whatever the other outputs are, on any two hosts (`execute_independent`).
-/

namespace CallPlan

variable {σ σ' ω ω' : Type}

/-! ### What a reference reads -/

namespace Reference

/-- What a reference reads of some results: the field that its path leads to in the structured
content of the call it names. -/
def read? (reference : Reference) (results : List ExecutionResult) : Option Json :=
  results[reference.source]?.bind (·.structured.field? reference.path)

variable {reference : Reference} {results later : List ExecutionResult} {found : Json}

theorem resolve_eq_ok_iff :
    reference.resolve results = .ok found ↔ reference.read? results = some found := by
  unfold resolve read?
  cases results[reference.source]? with
  | none => simp
  | some result =>
      dsimp only [Option.bind_some]
      cases result.structured.field? reference.path <;> simp

/-- A reference that has a value keeps it when more results come. -/
theorem resolve_of_prefix (before : results <+: later)
    (resolved : reference.resolve results = .ok found) : reference.resolve later = .ok found := by
  rw [resolve_eq_ok_iff, read?, Option.bind_eq_some_iff] at resolved ⊢
  obtain ⟨result, recorded, read⟩ := resolved
  obtain ⟨more, rfl⟩ := before
  have inside := (List.getElem?_eq_some_iff.1 recorded).1
  exact ⟨result, (List.getElem?_append_left inside).trans recorded, read⟩

/-- What is read of a call's result is read of its structured content. -/
theorem read?_of_structured
    (same : results[reference.source]?.map (·.structured)
      = later[reference.source]?.map (·.structured)) :
    reference.read? results = reference.read? later := by
  have reads : ∀ results : List ExecutionResult, reference.read? results
      = (results[reference.source]?.map (·.structured)).bind (·.field? reference.path) := by
    intro results
    rw [Option.bind_map]
    rfl
  rw [reads, reads, same]

end Reference

/-- A reference stands somewhere in the arguments of a call. -/
def PlannedCall.Names (call : PlannedCall) (reference : Reference) : Prop :=
  ∃ place text, (place, text) ∈ (Json.obj call.arguments).leaves ∧
    Reference.parse text = .ok (some reference)

/-- Substitution gives the same on other results, if the references have the same values there. -/
theorem substituteArguments_of_agree {call : PlannedCall} {rebuilt : Members}
    {results others : List ExecutionResult}
    (agree : ∀ reference, call.Names reference → ∀ found,
      reference.resolve results = .ok found → reference.resolve others = .ok found)
    (resolved : substituteArguments call.arguments results = .ok rebuilt) :
    substituteArguments call.arguments others = .ok rebuilt := by
  refine Json.mapMemberLeavesM_of_agree (fun leaf hleaf found value => ?_) resolved
  unfold Reference.resolveText at value ⊢
  cases parsed : Reference.parse leaf.2 with
  | error long =>
      rw [parsed] at value
      cases value
  | ok reference? =>
      rw [parsed] at value
      cases reference? with
      | none => exact value
      | some reference => exact agree reference ⟨leaf.1, leaf.2, hleaf, parsed⟩ found value

/-! ### Results stay -/

namespace Execution

theorem unresolvable_results_grow (host : Host σ) (index : Nat) (call : PlannedCall)
    (message : String) (state : RunState σ ω) :
    state.results <+: (unresolvable host index call message state).2.results := by
  unfold unresolvable
  dsimp only
  split
  next => exact List.prefix_refl _
  next => exact List.prefix_append _ _

theorem settle_results_grow (host : Host σ) (index : Nat) (tool : String) (started : Int)
    (returned : Except Failure CallResult) (state : RunState σ ω) :
    state.results <+: (settle host index tool started returned state).2.results := by
  cases returned with
  | error failure => exact List.prefix_refl _
  | ok returned =>
      unfold settle
      dsimp only
      split <;> exact List.prefix_append _ _

theorem invokeCall_results_grow (host : Host σ) (index : Nat) (tool : String)
    (arguments : Members) (state : RunState σ ω) :
    state.results <+: (invokeCall host index tool arguments state).2.results := by
  unfold invokeCall
  split
  next lapse tracker e =>
    split
    next => exact List.prefix_refl _
    next =>
      exact settle_results_grow host index tool _ _ ⟨_, tracker, state.results⟩

/-- A call adds to the results or leaves them as they are. -/
theorem runCall_results_grow (host : Host σ) (deadline : Option Deadline) (index : Nat)
    (call : PlannedCall) (state : RunState σ ω) :
    state.results <+: (runCall host deadline index call state).2.results := by
  unfold runCall
  split
  next => exact List.prefix_refl _
  next =>
    split
    next => exact List.prefix_refl _
    next cause resolved => exact unresolvable_results_grow host index call _ state
    next arguments resolved => exact invokeCall_results_grow host index call.tool arguments state

/-- The results only grow. -/
theorem runFrom_results_grow (host : Host σ) (deadline : Option Deadline) (index : Nat)
    (calls : List PlannedCall) (state : RunState σ ω) :
    state.results <+: (runFrom host deadline index calls state).2.results := by
  induction calls generalizing index state with
  | nil => exact List.prefix_refl _
  | cons call rest ih =>
      have grows := runCall_results_grow host deadline index call state
      rw [runFrom]
      cases e : runCall host deadline index call state with
      | mk ending after =>
          rw [e] at grows
          cases ending with
          | some ending => exact grows
          | none => exact grows.trans (ih (index + 1) after)

end Execution

/-! ### What a call was invoked with -/

namespace Execution

/-- An item that was added last stays where it is when more items come. -/
theorem eq_of_concat_prefix {α : Type} {xs ys : List α} {a b : α} (before : xs ++ [a] <+: ys)
    (there : ys[xs.length]? = some b) : b = a := by
  obtain ⟨more, rfl⟩ := before
  rw [List.getElem?_append_left (by simp), List.getElem?_concat_length] at there
  exact (Option.some.inj there).symm

/-- Every invocation that a run adds to the log is that of a call, with what its references stand for
in the results at the end. -/
theorem runFrom_resolved {host : Host σ} {deadline : Option Deadline} {index k : Nat}
    {calls : List PlannedCall} {state : RunState (σ × List Invocation) ω} {invocation : Invocation}
    (asked : (runFrom host.logged deadline index calls state).2.world.2[state.world.2.length + k]?
      = some invocation) :
    ∃ call, calls[k]? = some call ∧ invocation.tool = call.tool ∧
      substituteArguments call.arguments (runFrom host.logged deadline index calls state).2.results
        = .ok invocation.arguments := by
  induction calls generalizing index k state with
  | nil =>
      have inside := (List.getElem?_eq_some_iff.1 asked).1
      exact absurd inside (Nat.not_lt.2 (Nat.le_add_right ..))
  | cons call rest ih =>
      have step := runCall_step host.logged deadline index call state
      have grows := runFrom_results_grow host.logged deadline index (call :: rest) state
      -- what the call itself is invoked with it would be invoked with at the end
      have own : ∀ {arguments}, substituteArguments call.arguments state.results = .ok arguments →
          substituteArguments call.arguments
            (runFrom host.logged deadline index (call :: rest) state).2.results = .ok arguments :=
        substituteArguments_of_agree fun _ _ _ => Reference.resolve_of_prefix grows
      rw [runFrom] at asked own ⊢
      cases e : runCall host.logged deadline index call state with
      | mk ending after =>
          rw [e] at step asked own
          cases ending with
          | some ending =>
              rcases step.log with same | ⟨arguments, returned, resolved, more⟩
              · rw [same] at asked
                have inside := (List.getElem?_eq_some_iff.1 asked).1
                exact absurd inside (Nat.not_lt.2 (Nat.le_add_right ..))
              · rw [more] at asked
                rcases getElem?_concat_cases asked with ⟨inside, -⟩ | ⟨last, rfl⟩
                · exact absurd inside (Nat.not_lt.2 (Nat.le_add_right ..))
                · obtain rfl : k = 0 := Nat.add_eq_left.1 last
                  exact ⟨call, rfl, rfl, own resolved⟩
          | none =>
              cases step with
              | @passed arguments returned world tracker duration resolved invoked =>
                  have more := Host.log_of_invoke invoked
                  cases k with
                  | zero =>
                      have later := runFrom_log_grows host deadline (index + 1) rest
                        ⟨world, tracker,
                          state.results ++ [.ofCall index call.tool returned duration]⟩
                      rw [more] at later
                      obtain rfl := eq_of_concat_prefix later asked
                      exact ⟨call, rfl, rfl, own resolved⟩
                  | succ k =>
                      refine ih ?_
                      rw [more, List.length_append, List.length_singleton, Nat.add_assoc,
                        Nat.add_comm 1 k]
                      exact asked

end Execution

/-- The results that a run has recorded when it ends, with an outcome or without one. -/
def recorded (host : Host σ) (plan : ToolCalls) (deadline : Option Deadline)
    (tracker : Option (Tracker ω)) (world : σ) : List ExecutionResult :=
  (Execution.runFrom host deadline 0 plan.calls ⟨world, tracker, []⟩).2.results

section
variable {host : Host σ} {plan : ToolCalls} {deadline : Option Deadline}
  {tracker : Option (Tracker ω)} {world : σ}

/-- What a run has recorded are the results of its outcome. -/
theorem recorded_eq_results {outcome : Outcome}
    (h : (execute host plan deadline tracker world).1 = .ok outcome) :
    recorded host plan deadline tracker world = outcome.results := by
  rw [execute] at h
  dsimp only at h
  rw [recorded]
  unfold Execution.outcome at h
  split at h
  next =>
    cases h
    rfl
  next =>
    cases h
    rfl
  next => cases h

/-- A call was invoked with what its references stand for in the results of the whole run. -/
theorem resolved_of_invoked {k : Nat} {invocation : Invocation}
    (invoked : (invocations host plan deadline tracker world)[k]? = some invocation) :
    ∃ call, plan.calls[k]? = some call ∧ invocation.tool = call.tool ∧
      substituteArguments call.arguments (recorded host plan deadline tracker world)
        = .ok invocation.arguments := by
  have unlogged := Execution.runFrom_logged host deadline 0 plan.calls ⟨(world, []), tracker, []⟩
  have same : recorded host plan deadline tracker world
      = (Execution.runFrom host.logged deadline 0 plan.calls
          ⟨(world, []), tracker, []⟩).2.results :=
    congrArg (·.2.results) unlogged
  rw [same]
  refine Execution.runFrom_resolved ?_
  rw [List.length_nil, Nat.zero_add]
  exact invoked

end

/-! ### Two runs -/

namespace Sample

/-- A list with a row, though it is not counted. -/
def oneRow : Json := .obj [("rows", .arr [.null]), ("total", .int 0)]

/-- Tools of which the first has more to list, on a host that counts its invocations. -/
def fullHost : Host Nat where
  invoke tool _ world :=
    (.ok (if tool = "list" then ⟨oneRow, [], false⟩ else ⟨.null, [], false⟩), world + 1)
  now _ := .ok default
  clock world := world
  cancelled _ := false

end Sample

/-- Two runs of a plan invoke a call with the same arguments if they recorded the same structured
contents for the calls that its references name, or only the same values where the references lead;
all else may differ, the tools, the signals, the clocks and the trackers. Whether the plan was
accepted does not matter, since a call is only invoked when all its references have values. -/
theorem execute_independent {host : Host σ} {host' : Host σ'} {plan : ToolCalls}
    {deadline deadline' : Option Deadline} {tracker : Option (Tracker ω)}
    {tracker' : Option (Tracker ω')} {world : σ} {world' : σ'} {k : Nat} {call : PlannedCall}
    {invocation invocation' : Invocation} (called : plan.calls[k]? = some call)
    (invoked : (invocations host plan deadline tracker world)[k]? = some invocation)
    (invoked' : (invocations host' plan deadline' tracker' world')[k]? = some invocation') :
    ((∀ reference, call.Names reference →
        (recorded host plan deadline tracker world)[reference.source]?.map (·.structured)
          = (recorded host' plan deadline' tracker' world')[reference.source]?.map
            (·.structured)) →
      invocation.tool = invocation'.tool ∧ invocation.arguments = invocation'.arguments) ∧
    ((∀ reference, call.Names reference →
        reference.read? (recorded host plan deadline tracker world)
          = reference.read? (recorded host' plan deadline' tracker' world')) →
      invocation.tool = invocation'.tool ∧ invocation.arguments = invocation'.arguments) := by
  obtain ⟨call₁, called₁, tool, resolved⟩ := resolved_of_invoked invoked
  obtain ⟨call₂, called₂, tool', resolved'⟩ := resolved_of_invoked invoked'
  obtain rfl := Option.some.inj (called.symm.trans called₁)
  obtain rfl := Option.some.inj (called.symm.trans called₂)
  have same : (∀ reference, call.Names reference →
        reference.read? (recorded host plan deadline tracker world)
          = reference.read? (recorded host' plan deadline' tracker' world')) →
      invocation.tool = invocation'.tool ∧ invocation.arguments = invocation'.arguments := by
    intro reads
    have there : substituteArguments call.arguments
        (recorded host' plan deadline' tracker' world') = .ok invocation.arguments := by
      refine substituteArguments_of_agree (fun reference named found value => ?_) resolved
      rw [Reference.resolve_eq_ok_iff, ← reads reference named]
      exact Reference.resolve_eq_ok_iff.1 value
    exact ⟨tool.trans tool'.symm, Except.ok.inj (there.symm.trans resolved')⟩
  refine ⟨fun contents => same fun reference named => ?_, same⟩
  exact Reference.read?_of_structured (contents reference named)

/-- The rows that the two tools list differ, but only their number is referred to. -/
theorem execute_independent_oneRow :
    (recorded Sample.host (Sample.plan "$0.output.total") none (none : Option (Tracker Unit)) ()
      ≠ recorded Sample.fullHost (Sample.plan "$0.output.total") none
        (none : Option (Tracker Unit)) 0) ∧
    ∃ invocation invocation',
      (invocations Sample.host (Sample.plan "$0.output.total") none
        (none : Option (Tracker Unit)) ())[1]? = some invocation ∧
      (invocations Sample.fullHost (Sample.plan "$0.output.total") none
        (none : Option (Tracker Unit)) 0)[1]? = some invocation' ∧
      invocation.tool = invocation'.tool ∧ invocation.arguments = invocation'.arguments := by
  have called : (Sample.plan "$0.output.total").calls[1]?
      = some ⟨"page", [("size", .str "$0.output.total")]⟩ := rfl
  have invoked : (invocations Sample.host (Sample.plan "$0.output.total") none
      (none : Option (Tracker Unit)) ())[1]?
        = some ⟨"page", [("size", .int 0)], .ok (.error "no such page")⟩ := rfl
  have invoked' : (invocations Sample.fullHost (Sample.plan "$0.output.total") none
      (none : Option (Tracker Unit)) 0)[1]?
        = some ⟨"page", [("size", .int 0)], .ok ⟨.null, [], false⟩⟩ := rfl
  refine ⟨?_, _, _, invoked, invoked', (execute_independent called invoked invoked').2 ?_⟩
  · intro same
    cases same
  · rintro reference ⟨place, text, hleaf, parsed⟩
    obtain ⟨-, rfl⟩ : place = [.key "size"] ∧ text = "$0.output.total" := by
      simpa [Json.leaves, Json.memberLeaves, Json.under] using hleaf
    cases parsed
    rfl

end CallPlan
