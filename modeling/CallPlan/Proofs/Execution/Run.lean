import CallPlan.Proofs.Execution.Log

/-!
# CallPlan.Proofs.Execution.Run

What can happen in a run.

* `Execution.CallStep` lists all that one call can come to: it passes, or the run ends there in one
  of nine ways. `runCall_step` is the only place where the definition of a call is opened.
* `Execution.Answered` relates calls that all passed to what the tool runtime was asked for them and
  to what was recorded of them. It grows call by call.
* `Execution.RunEnds` says how a run can end: all calls passed, or some did and the run ended at the
  one after these (`execute_ends`).
* The log of a run only grows, and every invocation in it is that of the call at its position
  (`RunEnds.invoked`).
-/

namespace CallPlan

/-- Nothing can be said only of a call that failed. -/
theorem ExecutionResult.isError_of_unsaid {result : ExecutionResult} {long : LongNumber}
    (unsaid : result.errorMessage = .error long) : result.isError = true := by
  cases failed : result.isError with
  | true => rfl
  | false => simp [errorMessage, failed] at unsaid

namespace Execution

variable {σ ω : Type}

/-! ### One call -/

/-- The tracker stays, and a run only ends at a report that has to be dated and cannot be. -/
theorem report_cases (tracker : Option (Tracker ω)) (now : Except Failure DateTime)
    (dated : DateTime → Tracker ω → Tracker ω) (undated : Tracker ω → Tracker ω) :
    (∃ tracker', report tracker now dated undated = (none, tracker') ∧
        tracker'.isSome = tracker.isSome) ∨
      ∃ failure tracker', report tracker now dated undated = (some (.failed failure), tracker') ∧
        tracker.isSome = true ∧ now = .error failure := by
  cases tracker with
  | none => exact Or.inl ⟨none, rfl, rfl⟩
  | some tracker =>
      cases now with
      | ok now => exact Or.inl ⟨_, rfl, rfl⟩
      | error failure => exact Or.inr ⟨failure, _, rfl, rfl, rfl⟩

/-- All that a call can come to: how the run ends there, if it does, and the state afterwards. -/
inductive CallStep (host : Host σ) (deadline : Option Deadline) (index : Nat) (call : PlannedCall)
    (state : RunState σ ω) : Option RunEnd → RunState σ ω → Prop where
  /-- The run was cancelled before. -/
  | cancelled (stop : stopped host deadline state.world = true) :
      CallStep host deadline index call state (some (.halted index .cancelled)) state
  /-- The index of a reference is too long. -/
  | longIndex {long : LongIndex}
      (unresolved : substituteArguments call.arguments state.results = .error (.longIndex long)) :
      CallStep host deadline index call state (some (.failed (.unchecked (.longIndex long)))) state
  /-- A reference has no value: the call fails without being invoked. -/
  | unresolved {cause : Unresolved} {tracker : Option (Tracker ω)}
      (unresolved : substituteArguments call.arguments state.results = .error cause) :
      CallStep host deadline index call state (some (.halted index .toolError))
        ⟨state.world, tracker,
          state.results ++ [.ofCall index call.tool (.error cause.message) 0]⟩
  /-- The beginning of the call, or its failure without being invoked, cannot be dated. -/
  | undatedBefore {failure : Failure} {tracker : Option (Tracker ω)}
      (tracked : state.tracker.isSome = true) (undated : host.now state.world = .error failure) :
      CallStep host deadline index call state (some (.failed failure))
        ⟨state.world, tracker, state.results⟩
  /-- The tool runtime fails. -/
  | raised {arguments : Members} {failure : Failure} {world : σ} {tracker : Option (Tracker ω)}
      (resolved : substituteArguments call.arguments state.results = .ok arguments)
      (invoked : host.invoke call.tool arguments state.world = (.error failure, world)) :
      CallStep host deadline index call state (some (.failed failure))
        ⟨world, tracker, state.results⟩
  /-- The end of the call cannot be dated. -/
  | undatedAfter {arguments : Members} {returned : Except Failure CallResult} {failure : Failure}
      {world : σ} {tracker : Option (Tracker ω)} {results : List ExecutionResult}
      (resolved : substituteArguments call.arguments state.results = .ok arguments)
      (invoked : host.invoke call.tool arguments state.world = (returned, world))
      (tracked : state.tracker.isSome = true) (undated : host.now world = .error failure) :
      CallStep host deadline index call state (some (.failed failure)) ⟨world, tracker, results⟩
  /-- The tool returns an error about which nothing can be said. -/
  | wordless {arguments : Members} {returned : CallResult} {world : σ}
      {tracker : Option (Tracker ω)} {duration : Int} {long : LongNumber}
      (resolved : substituteArguments call.arguments state.results = .ok arguments)
      (invoked : host.invoke call.tool arguments state.world = (.ok returned, world))
      (unsaid : (ExecutionResult.ofCall index call.tool returned duration).errorMessage
        = .error long) :
      CallStep host deadline index call state (some (.failed (.ofLongNumber long)))
        ⟨world, tracker, state.results ++ [.ofCall index call.tool returned duration]⟩
  /-- The tool returns an error. -/
  | refused {arguments : Members} {returned : CallResult} {world : σ}
      {tracker : Option (Tracker ω)} {duration : Int}
      (resolved : substituteArguments call.arguments state.results = .ok arguments)
      (invoked : host.invoke call.tool arguments state.world = (.ok returned, world))
      (isError : returned.isError = true)
      (said : ∃ message, (ExecutionResult.ofCall index call.tool returned duration).errorMessage
        = .ok message) :
      CallStep host deadline index call state (some (.halted index .toolError))
        ⟨world, tracker, state.results ++ [.ofCall index call.tool returned duration]⟩
  /-- The tool returns a result: the run goes on. -/
  | passed {arguments : Members} {returned : CallResult} {world : σ}
      {tracker : Option (Tracker ω)} {duration : Int}
      (resolved : substituteArguments call.arguments state.results = .ok arguments)
      (invoked : host.invoke call.tool arguments state.world = (.ok returned, world))
      (succeeded : returned.isError = false) (kept : tracker.isSome = state.tracker.isSome) :
      CallStep host deadline index call state none
        ⟨world, tracker, state.results ++ [.ofCall index call.tool returned duration]⟩

section
variable {host : Host σ} {deadline : Option Deadline} {index : Nat} {call : PlannedCall}
  {state : RunState σ ω}

theorem unresolvable_step {cause : Unresolved}
    (unresolved : substituteArguments call.arguments state.results = .error cause) :
    CallStep host deadline index call state
      (some (unresolvable host index call cause.message state).1)
      (unresolvable host index call cause.message state).2 := by
  unfold unresolvable
  rcases report_cases state.tracker (host.now state.world)
      (fun now t =>
        let t := t.toolExecution call.tool call.arguments now
        t.fail t.lastPosition (.str cause.message) now) id with
    ⟨tracker, e, -⟩ | ⟨failure, tracker, e, tracked, undated⟩
  · rw [e]
    exact .unresolved unresolved
  · rw [e]
    exact .undatedBefore tracked undated

theorem settle_step {arguments : Members} {returned : Except Failure CallResult} {world : σ}
    {tracker : Option (Tracker ω)} {started : Int}
    (resolved : substituteArguments call.arguments state.results = .ok arguments)
    (invoked : host.invoke call.tool arguments state.world = (returned, world))
    (kept : tracker.isSome = state.tracker.isSome) :
    CallStep host deadline index call state
      (settle host index call.tool started returned ⟨world, tracker, state.results⟩).1
      (settle host index call.tool started returned ⟨world, tracker, state.results⟩).2 := by
  cases returned with
  | error failure =>
      simp only [settle]
      rcases report_cases tracker (host.now world)
          (fun now t => t.fail t.lastPosition (.str failure.message) now)
          (fun t => t.endUndated t.lastPosition .failed) with
        ⟨tracker', e, -⟩ | ⟨failure', tracker', e, tracked, undated⟩
      · simp only [e, if_true]
        exact .raised resolved invoked
      · simp only [e, if_true]
        exact .undatedAfter resolved invoked (kept ▸ tracked) undated
  | ok returned =>
      simp only [settle]
      generalize hresult : ExecutionResult.ofCall index call.tool returned
        (Deadline.elapsed started (host.clock world)) = result
      have same : result.isError = returned.isError := by rw [← hresult, ExecutionResult.ofCall]
      cases said : result.errorMessage with
      | error long => exact hresult ▸ .wordless resolved invoked (hresult ▸ said)
      | ok message =>
          rcases report_cases tracker (host.now world) (reportResult result message)
              (fun t =>
                t.endUndated t.lastPosition (if result.isError then .failed else .completed)) with
            ⟨tracker', e, kept'⟩ | ⟨failure', tracker', e, tracked, undated⟩
          · dsimp only
            rw [e, same, ← hresult]
            cases isError : returned.isError with
            | true => exact .refused resolved invoked isError ⟨message, hresult ▸ said⟩
            | false => exact .passed resolved invoked isError (kept'.trans kept)
          · dsimp only
            rw [e]
            exact .undatedAfter resolved invoked (kept ▸ tracked) undated

theorem runCall_step (host : Host σ) (deadline : Option Deadline) (index : Nat)
    (call : PlannedCall) (state : RunState σ ω) :
    CallStep host deadline index call state (runCall host deadline index call state).1
      (runCall host deadline index call state).2 := by
  unfold runCall
  by_cases stop : stopped host deadline state.world = true
  · rw [if_pos stop]
    exact .cancelled stop
  · rw [if_neg stop]
    cases resolved : substituteArguments call.arguments state.results with
    | error cause =>
        cases cause with
        | longIndex long => exact .longIndex resolved
        | noResult reference count => exact unresolvable_step resolved
        | noField reference tool => exact unresolvable_step resolved
    | ok arguments =>
        simp only [invokeCall]
        rcases report_cases state.tracker (host.now state.world)
            (fun now t => t.toolExecution call.tool arguments now) id with
          ⟨tracker, e, kept⟩ | ⟨failure, tracker, e, tracked, undated⟩
        · rw [e]
          exact settle_step resolved rfl kept
        · rw [e]
          exact .undatedBefore tracked undated

end

/-! ### Calls that passed -/

theorem getElem?_concat_cases {α : Type} {xs : List α} {a b : α} {k : Nat}
    (h : (xs ++ [a])[k]? = some b) : (k < xs.length ∧ xs[k]? = some b) ∨ (k = xs.length ∧ b = a) := by
  by_cases inside : k < xs.length
  · rw [List.getElem?_append_left inside] at h
    exact Or.inl ⟨inside, h⟩
  · obtain rfl : k = xs.length := by
      have := (List.getElem?_eq_some_iff.1 h).1
      simp only [List.length_append, List.length_singleton] at this
      omega
    rw [List.getElem?_concat_length] at h
    exact Or.inr ⟨rfl, (Option.some.inj h).symm⟩

/-- What the tool runtime was asked for calls that all passed, and what was recorded of them: each
call was invoked with its references replaced by the outputs of the calls before. -/
inductive Answered : List PlannedCall → List Invocation → List ExecutionResult → Prop where
  | nil : Answered [] [] []
  | snoc {done : List PlannedCall} {log : List Invocation} {results : List ExecutionResult}
      {call : PlannedCall} {arguments : Members} {returned : CallResult} {duration : Int}
      (prior : Answered done log results)
      (resolved : substituteArguments call.arguments results = .ok arguments)
      (succeeded : returned.isError = false) :
      Answered (done ++ [call]) (log ++ [⟨call.tool, arguments, .ok returned⟩])
        (results ++ [.ofCall done.length call.tool returned duration])

section
variable {done : List PlannedCall} {log : List Invocation} {results : List ExecutionResult}

theorem Answered.length (h : Answered done log results) :
    log.length = done.length ∧ results.length = done.length := by
  induction h with
  | nil => exact ⟨rfl, rfl⟩
  | snoc prior resolved succeeded ih => simp [ih.1, ih.2]

/-- What is known of each call that passed. -/
theorem Answered.at {k : Nat} {call : PlannedCall} (h : Answered done log results)
    (called : done[k]? = some call) :
    ∃ arguments returned duration,
      substituteArguments call.arguments (results.take k) = .ok arguments ∧
        log[k]? = some ⟨call.tool, arguments, .ok returned⟩ ∧ returned.isError = false ∧
        results[k]? = some (.ofCall k call.tool returned duration) := by
  induction h with
  | nil => simp at called
  | @snoc done log results call' arguments returned duration prior resolved succeeded ih =>
      obtain ⟨hlog, hresults⟩ := prior.length
      rcases getElem?_concat_cases called with ⟨inside, called⟩ | ⟨rfl, rfl⟩
      · rw [List.getElem?_append_left (hlog ▸ inside), List.getElem?_append_left (hresults ▸ inside),
          List.take_append_of_le_length (Nat.le_of_lt (hresults ▸ inside))]
        exact ih called
      · refine ⟨arguments, returned, duration, ?_, ?_, succeeded, ?_⟩
        · rw [← hresults, List.take_left]
          exact resolved
        · rw [← hlog, List.getElem?_concat_length]
        · rw [← hresults, List.getElem?_concat_length]

/-- Every result belongs to a call that passed. -/
theorem Answered.of_result {k : Nat} {result : ExecutionResult} (h : Answered done log results)
    (hresult : results[k]? = some result) :
    ∃ call arguments returned duration, done[k]? = some call ∧
      substituteArguments call.arguments (results.take k) = .ok arguments ∧
        log[k]? = some ⟨call.tool, arguments, .ok returned⟩ ∧ returned.isError = false ∧
        result = .ofCall k call.tool returned duration := by
  have inside : k < done.length := by
    rw [← h.length.2]
    exact (List.getElem?_eq_some_iff.1 hresult).1
  obtain ⟨arguments, returned, duration, resolved, hlog, succeeded, hresult'⟩ :=
    h.at (List.getElem?_eq_getElem inside)
  exact ⟨_, arguments, returned, duration, List.getElem?_eq_getElem inside, resolved, hlog,
    succeeded, Option.some.inj (hresult.symm.trans hresult')⟩

/-- Every invocation belongs to a call that passed. -/
theorem Answered.of_invocation {k : Nat} {invocation : Invocation} (h : Answered done log results)
    (asked : log[k]? = some invocation) :
    ∃ call, done[k]? = some call ∧ invocation.tool = call.tool ∧
      substituteArguments call.arguments (results.take k) = .ok invocation.arguments := by
  have inside : k < done.length := by
    rw [← h.length.1]
    exact (List.getElem?_eq_some_iff.1 asked).1
  obtain ⟨arguments, returned, duration, resolved, hlog, -, -⟩ :=
    h.at (List.getElem?_eq_getElem inside)
  obtain rfl := Option.some.inj (asked.symm.trans hlog)
  exact ⟨_, List.getElem?_eq_getElem inside, rfl, resolved⟩

/-- What is known of calls that passed is known of the first of them. -/
theorem Answered.take (h : Answered done log results) (k : Nat) :
    Answered (done.take k) (log.take k) (results.take k) := by
  induction h with
  | nil => simpa using Answered.nil
  | @snoc done log results call arguments returned duration prior resolved succeeded ih =>
      obtain ⟨hlog, hresults⟩ := prior.length
      by_cases inside : k ≤ done.length
      · rw [List.take_append_of_le_length inside, List.take_append_of_le_length (hlog ▸ inside),
          List.take_append_of_le_length (hresults ▸ inside)]
        exact ih
      · rw [List.take_of_length_le (by simp; omega), List.take_of_length_le (by simp; omega),
          List.take_of_length_le (by simp; omega)]
        exact .snoc prior resolved succeeded

/-- What is known of the invocation of a call that passed, among all calls and invocations of a
run. -/
theorem Answered.invoked {calls rest : List PlannedCall} {k : Nat} {invocation : Invocation}
    (h : Answered done log results) (calls_eq : calls = done ++ rest) (more : List Invocation)
    (asked : log[k]? = some invocation) :
    ∃ call results, calls[k]? = some call ∧
      Answered (calls.take k) ((log ++ more).take k) results ∧ invocation.tool = call.tool ∧
      substituteArguments call.arguments results = .ok invocation.arguments := by
  obtain ⟨call, called, htool, resolved⟩ := h.of_invocation asked
  have shortLog := Nat.le_of_lt (List.getElem?_eq_some_iff.1 asked).1
  have short := (List.getElem?_eq_some_iff.1 called).1
  refine ⟨call, _, ?_, ?_, htool, resolved⟩
  · rw [calls_eq, List.getElem?_append_left short, called]
  · rw [calls_eq, List.take_append_of_le_length (Nat.le_of_lt short),
      List.take_append_of_le_length shortLog]
    exact h.take k

end

/-! ### Runs -/

/-- How a run of logged invocations can end: all calls passed, or some did and the run ended at the
one after these. -/
inductive RunEnds (host : Host σ) (deadline : Option Deadline) (tracked : Bool)
    (calls : List PlannedCall) : RunEnd → RunState (σ × List Invocation) ω → Prop where
  | finished {state : RunState (σ × List Invocation) ω}
      (answered : Answered calls state.world.2 state.results) :
      RunEnds host deadline tracked calls .finished state
  | ended {done rest : List PlannedCall} {call : PlannedCall}
      {before after : RunState (σ × List Invocation) ω} {ending : RunEnd}
      (calls_eq : calls = done ++ call :: rest)
      (answered : Answered done before.world.2 before.results)
      (kept : before.tracker.isSome = tracked)
      (step : CallStep host.logged deadline done.length call before (some ending) after) :
      RunEnds host deadline tracked calls ending after

/-- A run from calls that passed on ends in one of these ways. -/
theorem runFrom_ends (host : Host σ) (deadline : Option Deadline) {tracked : Bool}
    {done calls : List PlannedCall} {state : RunState (σ × List Invocation) ω}
    (answered : Answered done state.world.2 state.results) (kept : state.tracker.isSome = tracked) :
    RunEnds host deadline tracked (done ++ calls)
      (runFrom host.logged deadline done.length calls state).1
      (runFrom host.logged deadline done.length calls state).2 := by
  induction calls generalizing done state with
  | nil =>
      rw [List.append_nil]
      exact .finished answered
  | cons call rest ih =>
      have step := runCall_step host.logged deadline done.length call state
      rw [runFrom]
      cases e : runCall host.logged deadline done.length call state with
      | mk ending after =>
          rw [e] at step
          cases ending with
          | some ending => exact .ended rfl answered kept step
          | none =>
              cases step with
              | @passed arguments returned world tracker duration resolved invoked succeeded kept' =>
                  have answered' : Answered (done ++ [call]) world.2
                      (state.results ++ [.ofCall done.length call.tool returned duration]) := by
                    rw [Host.log_of_invoke invoked]
                    exact answered.snoc resolved succeeded
                  have next := @ih _ ⟨world, tracker, _⟩ answered' (kept'.trans kept)
                  simpa using next

/-- A run of a plan ends in one of these ways, whether its invocations are logged or not. -/
theorem execute_ends (host : Host σ) (plan : ToolCalls) (deadline : Option Deadline)
    (tracker : Option (Tracker ω)) (world : σ) :
    ∃ (ending : RunEnd) (state : RunState (σ × List Invocation) ω),
      RunEnds host deadline tracker.isSome plan.calls ending state ∧
        (execute host plan deadline tracker world).1 = outcome ending state.results ∧
        (execute host plan deadline tracker world).2.1 = state.world.1 ∧
        invocations host plan deadline tracker world = state.world.2 := by
  have start : Answered [] ((world, []) : σ × List Invocation).2 [] := .nil
  have ends := @runFrom_ends _ _ host deadline _ [] plan.calls ⟨(world, []), tracker, []⟩ start rfl
  refine ⟨_, _, ends, ?_, ?_, rfl⟩
  · rw [execute_logged host plan deadline tracker world []]
    rfl
  · rw [execute_logged host plan deadline tracker world []]
    rfl

/-! ### The log of a run -/

/-- A call adds its own invocation to the log, or nothing. -/
theorem CallStep.log {host : Host σ} {deadline : Option Deadline} {index : Nat}
    {call : PlannedCall} {before after : RunState (σ × List Invocation) ω} {ending : Option RunEnd}
    (h : CallStep host.logged deadline index call before ending after) :
    after.world.2 = before.world.2 ∨
      ∃ arguments returned, substituteArguments call.arguments before.results = .ok arguments ∧
        after.world.2 = before.world.2 ++ [⟨call.tool, arguments, returned⟩] := by
  cases h with
  | cancelled stop => exact Or.inl rfl
  | longIndex unresolved => exact Or.inl rfl
  | unresolved unresolved => exact Or.inl rfl
  | undatedBefore tracked undated => exact Or.inl rfl
  | raised resolved invoked => exact Or.inr ⟨_, _, resolved, Host.log_of_invoke invoked⟩
  | undatedAfter resolved invoked tracked undated =>
      exact Or.inr ⟨_, _, resolved, Host.log_of_invoke invoked⟩
  | wordless resolved invoked unsaid =>
      exact Or.inr ⟨_, _, resolved, Host.log_of_invoke invoked⟩
  | refused resolved invoked isError said =>
      exact Or.inr ⟨_, _, resolved, Host.log_of_invoke invoked⟩
  | passed resolved invoked succeeded kept =>
      exact Or.inr ⟨_, _, resolved, Host.log_of_invoke invoked⟩

theorem CallStep.log_grows {host : Host σ} {deadline : Option Deadline} {index : Nat}
    {call : PlannedCall} {before after : RunState (σ × List Invocation) ω} {ending : Option RunEnd}
    (h : CallStep host.logged deadline index call before ending after) :
    before.world.2 <+: after.world.2 := by
  rcases h.log with same | ⟨arguments, returned, -, more⟩
  · exact same ▸ List.prefix_refl _
  · exact more ▸ List.prefix_append _ _

/-- The log only grows. -/
theorem runFrom_log_grows (host : Host σ) (deadline : Option Deadline) (index : Nat)
    (calls : List PlannedCall) (state : RunState (σ × List Invocation) ω) :
    state.world.2 <+: (runFrom host.logged deadline index calls state).2.world.2 := by
  induction calls generalizing index state with
  | nil => exact List.prefix_refl _
  | cons call rest ih =>
      have grows := (runCall_step host.logged deadline index call state).log_grows
      rw [runFrom]
      cases e : runCall host.logged deadline index call state with
      | mk ending after =>
          rw [e] at grows
          cases ending with
          | some ending => exact grows
          | none => exact grows.trans (ih (index + 1) after)

/-- A run goes on where the first of its calls have passed. -/
theorem runFrom_append {host : Host σ} {deadline : Option Deadline} {index : Nat}
    {calls : List PlannedCall} {state after : RunState σ ω}
    (h : runFrom host deadline index calls state = (.finished, after)) (more : List PlannedCall) :
    runFrom host deadline index (calls ++ more) state
      = runFrom host deadline (index + calls.length) more after := by
  induction calls generalizing index state with
  | nil =>
      cases h
      rfl
  | cons call rest ih =>
      have step := runCall_step host deadline index call state
      rw [runFrom] at h
      rw [List.cons_append, runFrom]
      cases e : runCall host deadline index call state with
      | mk ending next =>
          rw [e] at h step
          cases ending with
          | some ending =>
              cases h
              cases step
          | none =>
              rw [List.length_cons, Nat.add_comm rest.length, ← Nat.add_assoc]
              exact ih h

/-- Every invocation is that of the call at its position, which comes after calls that passed. -/
theorem RunEnds.invoked {host : Host σ} {deadline : Option Deadline} {tracked : Bool}
    {calls : List PlannedCall} {ending : RunEnd} {state : RunState (σ × List Invocation) ω}
    {k : Nat} {invocation : Invocation} (h : RunEnds host deadline tracked calls ending state)
    (asked : state.world.2[k]? = some invocation) :
    ∃ call results, calls[k]? = some call ∧
      Answered (calls.take k) (state.world.2.take k) results ∧ invocation.tool = call.tool ∧
      substituteArguments call.arguments results = .ok invocation.arguments := by
  cases h with
  | finished answered =>
      simpa using answered.invoked (List.append_nil calls).symm [] asked
  | @ended done rest call before after ending calls_eq answered kept step =>
      rcases step.log with same | ⟨arguments, returned, resolved, more⟩
      · rw [same] at asked ⊢
        simpa using answered.invoked calls_eq [] asked
      · rw [more] at asked ⊢
        rcases getElem?_concat_cases asked with ⟨-, asked⟩ | ⟨rfl, rfl⟩
        · exact answered.invoked calls_eq _ asked
        · have hlog := answered.length.1
          refine ⟨call, before.results, ?_, ?_, rfl, resolved⟩
          · simp [calls_eq, hlog]
          · rw [List.take_left, calls_eq, hlog, List.take_left]
            exact answered

end Execution

end CallPlan
