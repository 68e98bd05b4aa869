import CallPlan.Proofs.Execution.Run
import CallPlan.Proofs.Validation.Exact

/-!
# CallPlan.Proofs.Execution.Outcome

What the outcome of a run says.

* `Execution.Concluded` lists the outcomes that a run can have, with the invocations that led to
  them: all calls passed, or the run halted at the one after those that did, because it was
  cancelled, because a reference had no value, or because the tool returned an error.
* `execute_record` draws from this what can be relied on without knowing the run: results stand at
  the index of their call, only the last one may be an error, the two fields on halting fit the
  results, and the tool runtime was invoked in the order of the plan, once for each result.
-/

namespace CallPlan

namespace Execution

variable {σ ω : Type}

/-! ### Outcomes and invocations -/

/-- The outcomes of runs of some calls, with the invocations made. -/
inductive Concluded (calls : List PlannedCall) : Outcome → List Invocation → Prop where
  | completed {log : List Invocation} {results : List ExecutionResult}
      (answered : Answered calls log results) : Concluded calls ⟨results, none, none⟩ log
  | cancelled {done rest : List PlannedCall} {call : PlannedCall} {log : List Invocation}
      {results : List ExecutionResult} (calls_eq : calls = done ++ call :: rest)
      (answered : Answered done log results) :
      Concluded calls ⟨results, some done.length, some .cancelled⟩ log
  | unresolved {done rest : List PlannedCall} {call : PlannedCall} {log : List Invocation}
      {results : List ExecutionResult} {cause : Unresolved}
      (calls_eq : calls = done ++ call :: rest) (answered : Answered done log results)
      (unresolved : substituteArguments call.arguments results = .error cause) :
      Concluded calls
        ⟨results ++ [.ofCall done.length call.tool (.error cause.message) 0],
          some done.length, some .toolError⟩ log
  | refused {done rest : List PlannedCall} {call : PlannedCall} {log : List Invocation}
      {results : List ExecutionResult} {arguments : Members} {returned : CallResult}
      {duration : Int} (calls_eq : calls = done ++ call :: rest)
      (answered : Answered done log results)
      (resolved : substituteArguments call.arguments results = .ok arguments)
      (isError : returned.isError = true)
      (said : ∃ message, (ExecutionResult.ofCall done.length call.tool returned
        duration).errorMessage = .ok message) :
      Concluded calls
        ⟨results ++ [.ofCall done.length call.tool returned duration],
          some done.length, some .toolError⟩
        (log ++ [⟨call.tool, arguments, .ok returned⟩])

/-- A run that has an outcome has one of these. -/
theorem execute_concluded {host : Host σ} {plan : ToolCalls} {deadline : Option Deadline}
    {tracker : Option (Tracker ω)} {world : σ} {outcome : Outcome}
    (h : (execute host plan deadline tracker world).1 = .ok outcome) :
    Concluded plan.calls outcome (invocations host plan deadline tracker world) := by
  obtain ⟨ending, state, ends, e, -, elog⟩ := execute_ends host plan deadline tracker world
  rw [elog]
  rw [e] at h
  cases ends with
  | finished answered =>
      cases h
      exact .completed answered
  | ended calls_eq answered kept step =>
      cases step with
      | cancelled stop =>
          cases h
          exact .cancelled calls_eq answered
      | unresolved unresolved =>
          cases h
          exact .unresolved calls_eq answered unresolved
      | wordless resolved invoked unsaid => cases h
      | refused resolved invoked isError said =>
          cases h
          rw [Host.log_of_invoke invoked]
          exact .refused calls_eq answered resolved isError said
      | longIndex unresolved => cases h
      | undatedBefore tracked undated => cases h
      | raised resolved invoked => cases h
      | undatedAfter resolved invoked tracked undated => cases h

/-! ### Results -/

/-- Where the result of a call comes from: from its invocation with resolved arguments, or from a
reference without a value, and then there is no invocation. -/
inductive Accounted (call : PlannedCall) (earlier : List ExecutionResult) (k : Nat) :
    Option Invocation → ExecutionResult → Prop where
  | invoked {arguments : Members} {returned : CallResult} {duration : Int}
      (resolved : substituteArguments call.arguments earlier = .ok arguments) :
      Accounted call earlier k (some ⟨call.tool, arguments, .ok returned⟩)
        (.ofCall k call.tool returned duration)
  | unresolved {cause : Unresolved}
      (unresolved : substituteArguments call.arguments earlier = .error cause) :
      Accounted call earlier k none (.ofCall k call.tool (.error cause.message) 0)

theorem Accounted.index {call : PlannedCall} {earlier : List ExecutionResult} {k : Nat}
    {invocation : Option Invocation} {result : ExecutionResult}
    (h : Accounted call earlier k invocation result) : result.index = k ∧ result.tool = call.tool := by
  cases h with
  | invoked resolved => exact ⟨rfl, rfl⟩
  | unresolved unresolved => exact ⟨rfl, rfl⟩

theorem Answered.accounted {calls done rest : List PlannedCall} {log : List Invocation}
    {results : List ExecutionResult} (h : Answered done log results)
    (calls_eq : calls = done ++ rest) (others : List ExecutionResult) (more : List Invocation)
    {k : Nat} {result : ExecutionResult} (hresult : results[k]? = some result) :
    ∃ call, calls[k]? = some call ∧
      Accounted call ((results ++ others).take k) k (log ++ more)[k]? result := by
  obtain ⟨call, arguments, returned, duration, called, resolved, hlog, -, rfl⟩ :=
    h.of_result hresult
  have inside := (List.getElem?_eq_some_iff.1 hresult).1
  refine ⟨call, ?_, ?_⟩
  · rw [calls_eq, List.getElem?_append_left (List.getElem?_eq_some_iff.1 called).1, called]
  · rw [List.take_append_of_le_length (Nat.le_of_lt inside),
      List.getElem?_append_left (List.getElem?_eq_some_iff.1 hlog).1, hlog]
    exact .invoked resolved

theorem Answered.succeeded {done : List PlannedCall} {log : List Invocation}
    {results : List ExecutionResult} (h : Answered done log results) {result : ExecutionResult}
    (hmem : result ∈ results) : result.isError = false := by
  obtain ⟨k, hk⟩ := List.mem_iff_getElem?.1 hmem
  obtain ⟨call, arguments, returned, duration, -, -, -, succeeded, rfl⟩ := h.of_result hk
  exact succeeded

section
variable {calls : List PlannedCall} {outcome : Outcome} {log : List Invocation}

theorem Concluded.accounted {k : Nat} {result : ExecutionResult} (h : Concluded calls outcome log)
    (hresult : outcome.results[k]? = some result) :
    ∃ call, calls[k]? = some call ∧
      Accounted call (outcome.results.take k) k log[k]? result := by
  cases h with
  | completed answered =>
      simpa using answered.accounted (List.append_nil calls).symm [] [] hresult
  | cancelled calls_eq answered => simpa using answered.accounted calls_eq [] [] hresult
  | @unresolved done rest call log results cause calls_eq answered unresolved =>
      obtain ⟨hlog, hresults⟩ := answered.length
      rcases getElem?_concat_cases hresult with ⟨-, hresult⟩ | ⟨rfl, rfl⟩
      · simpa using answered.accounted calls_eq _ [] hresult
      · refine ⟨call, by simp [calls_eq, hresults], ?_⟩
        have noInvocation : log[results.length]? = none :=
          List.getElem?_eq_none (Nat.le_of_eq (hlog.trans hresults.symm))
        rw [List.take_left, noInvocation, ← hresults]
        exact .unresolved unresolved
  | @refused done rest call log results arguments returned duration calls_eq answered resolved =>
      obtain ⟨hlog, hresults⟩ := answered.length
      rcases getElem?_concat_cases hresult with ⟨-, hresult⟩ | ⟨rfl, rfl⟩
      · exact answered.accounted calls_eq _ _ hresult
      · refine ⟨call, by simp [calls_eq, hresults], ?_⟩
        rw [List.take_left, ← hresults, ← hlog.trans hresults.symm, List.getElem?_concat_length]
        exact .invoked resolved

theorem exists_errorMessage_of_error (index : Int) (tool cause : String) (duration : Int) :
    ∃ message, (ExecutionResult.ofCall index tool (.error cause) duration).errorMessage
      = .ok (some message) := by
  unfold ExecutionResult.errorMessage
  have isError : (ExecutionResult.ofCall index tool (.error cause) duration).isError = true := rfl
  rw [isError, Bool.not_true, if_neg Bool.false_ne_true]
  split <;> exact ⟨_, rfl⟩

theorem exists_errorMessage {result : ExecutionResult} (isError : result.isError = true)
    {message : Option String} (said : result.errorMessage = .ok message) :
    ∃ text, message = some text := by
  unfold ExecutionResult.errorMessage at said
  rw [isError, Bool.not_true, if_neg Bool.false_ne_true] at said
  split at said
  · cases said
    exact ⟨_, rfl⟩
  · split at said <;>
    · obtain ⟨text, -, rfl⟩ := map_eq_ok_iff.1 said
      exact ⟨text, rfl⟩

/-- Something is said of each error in an outcome. -/
theorem Concluded.said {result : ExecutionResult} (h : Concluded calls outcome log)
    (hmem : result ∈ outcome.results) (isError : result.isError = true) :
    ∃ message, result.errorMessage = .ok (some message) := by
  have passed {done : List PlannedCall} {log : List Invocation} {results : List ExecutionResult}
      (answered : Answered done log results) (hmem : result ∈ results) : False :=
    Bool.false_ne_true ((answered.succeeded hmem).symm.trans isError)
  cases h with
  | completed answered => exact (passed answered hmem).elim
  | cancelled calls_eq answered => exact (passed answered hmem).elim
  | unresolved calls_eq answered unresolved =>
      rcases List.mem_append.1 hmem with earlier | last
      · exact (passed answered earlier).elim
      · obtain rfl := List.mem_singleton.1 last
        exact exists_errorMessage_of_error _ _ _ _
  | refused calls_eq answered resolved failed said =>
      rcases List.mem_append.1 hmem with earlier | last
      · exact (passed answered earlier).elim
      · obtain rfl := List.mem_singleton.1 last
        obtain ⟨message, said⟩ := said
        obtain ⟨text, rfl⟩ := exists_errorMessage isError said
        exact ⟨text, said⟩

/-- There is a result for every invocation. -/
theorem Concluded.log_length_le (h : Concluded calls outcome log) :
    log.length ≤ outcome.results.length := by
  cases h with
  | completed answered => exact Nat.le_of_eq (answered.length.1.trans answered.length.2.symm)
  | cancelled calls_eq answered =>
      exact Nat.le_of_eq (answered.length.1.trans answered.length.2.symm)
  | unresolved calls_eq answered unresolved => simp [answered.length.1, answered.length.2]
  | refused calls_eq answered resolved isError said => simp [answered.length.1, answered.length.2]

end

end Execution

/-! ### The three endings -/

namespace Outcome

/-- All calls passed. -/
structure IsCompleted (n : Nat) (outcome : Outcome) : Prop where
  haltedAt : outcome.haltedAt = none
  haltReason : outcome.haltReason = none
  length : outcome.results.length = n
  noError : ∀ result ∈ outcome.results, result.isError = false

/-- A call failed, and its result is the last. -/
inductive IsToolError (n : Nat) (outcome : Outcome) : Prop where
  | intro {position : Nat} (inside : position < n) (haltedAt : outcome.haltedAt = some position)
      (haltReason : outcome.haltReason = some .toolError)
      (length : outcome.results.length = position + 1)
      (onlyLast : ∀ (k : Nat) (result : ExecutionResult), outcome.results[k]? = some result →
        (result.isError = true ↔ k = position)) :
      IsToolError n outcome

/-- A call was never started, and all calls before it passed. -/
inductive IsCancelled (n : Nat) (outcome : Outcome) : Prop where
  | intro {position : Nat} (inside : position < n) (haltedAt : outcome.haltedAt = some position)
      (haltReason : outcome.haltReason = some .cancelled)
      (length : outcome.results.length = position)
      (noError : ∀ result ∈ outcome.results, result.isError = false) :
      IsCancelled n outcome

/-- Exactly one of the three. -/
def EndsOneWay (n : Nat) (outcome : Outcome) : Prop :=
  (outcome.IsCompleted n ∧ ¬ outcome.IsToolError n ∧ ¬ outcome.IsCancelled n) ∨
    (outcome.IsToolError n ∧ ¬ outcome.IsCompleted n ∧ ¬ outcome.IsCancelled n) ∨
    (outcome.IsCancelled n ∧ ¬ outcome.IsCompleted n ∧ ¬ outcome.IsToolError n)

section
variable {n : Nat} {outcome : Outcome}

theorem IsToolError.haltReason (h : outcome.IsToolError n) :
    outcome.haltReason = some .toolError := by
  cases h with
  | intro inside haltedAt haltReason length onlyLast => exact haltReason

theorem IsCancelled.haltReason (h : outcome.IsCancelled n) :
    outcome.haltReason = some .cancelled := by
  cases h with
  | intro inside haltedAt haltReason length noError => exact haltReason

/-- The reason tells the three apart. -/
theorem endsOneWay (h : outcome.IsCompleted n ∨ outcome.IsToolError n ∨ outcome.IsCancelled n) :
    outcome.EndsOneWay n := by
  rcases h with h | h | h
  · refine Or.inl ⟨h, ?_, ?_⟩ <;>
    · intro h'
      exact nomatch h.haltReason.symm.trans h'.haltReason
  · refine Or.inr (Or.inl ⟨h, ?_, ?_⟩) <;>
    · intro h'
      exact nomatch h.haltReason.symm.trans h'.haltReason
  · refine Or.inr (Or.inr ⟨h, ?_, ?_⟩) <;>
    · intro h'
      exact nomatch h.haltReason.symm.trans h'.haltReason

/-- However a run ends, only the last result may be an error. -/
theorem error_last (h : outcome.IsCompleted n ∨ outcome.IsToolError n ∨ outcome.IsCancelled n)
    {k : Nat} {result : ExecutionResult} (hresult : outcome.results[k]? = some result)
    (isError : result.isError = true) : k + 1 = outcome.results.length := by
  have hmem := List.mem_of_getElem? hresult
  rcases h with ⟨haltedAt, haltReason, length, noError⟩ |
    ⟨inside, haltedAt, haltReason, length, onlyLast⟩ |
    ⟨inside, haltedAt, haltReason, length, noError⟩
  · exact nomatch (noError result hmem).symm.trans isError
  · rw [length, (onlyLast k result hresult).1 isError]
  · exact nomatch (noError result hmem).symm.trans isError

end

end Outcome

namespace Execution

/-- Calls that passed and one that failed after them. -/
theorem Answered.isToolError {calls done rest : List PlannedCall} {call : PlannedCall}
    {log : List Invocation} {results : List ExecutionResult} {last : ExecutionResult}
    (h : Answered done log results) (calls_eq : calls = done ++ call :: rest)
    (isError : last.isError = true) :
    Outcome.IsToolError calls.length
      ⟨results ++ [last], some (done.length : Nat), some .toolError⟩ := by
  have hresults := h.length.2
  refine .intro (by simp [calls_eq]) rfl rfl (by simp [hresults]) fun k result hresult => ?_
  rcases getElem?_concat_cases hresult with ⟨inside, hresult⟩ | ⟨rfl, rfl⟩
  · have succeeded := h.succeeded (List.mem_of_getElem? hresult)
    simp only [succeeded, Bool.false_eq_true, false_iff]
    omega
  · simp [isError, hresults]

theorem Concluded.ending {calls : List PlannedCall} {outcome : Outcome} {log : List Invocation}
    (h : Concluded calls outcome log) :
    outcome.IsCompleted calls.length ∨ outcome.IsToolError calls.length ∨
      outcome.IsCancelled calls.length := by
  cases h with
  | completed answered =>
      exact Or.inl ⟨rfl, rfl, answered.length.2, fun _ hmem => answered.succeeded hmem⟩
  | cancelled calls_eq answered =>
      exact Or.inr (Or.inr (.intro (by simp [calls_eq]) rfl rfl answered.length.2
        fun _ hmem => answered.succeeded hmem))
  | unresolved calls_eq answered unresolved =>
      exact Or.inr (Or.inl (answered.isToolError calls_eq rfl))
  | refused calls_eq answered resolved isError said =>
      exact Or.inr (Or.inl (answered.isToolError calls_eq isError))

end Execution

/-! ### What can be relied on -/

/-- What the outcome of a run of a plan says, and the invocations that were made for it. -/
structure RunRecord (plan : ToolCalls) (outcome : Outcome) (log : List Invocation) : Prop where
  /-- Results stand at the index of their call. -/
  inOrder : ∀ (k : Nat) (result : ExecutionResult), outcome.results[k]? = some result →
    ∃ call, plan.calls[k]? = some call ∧ result.index = k ∧ result.tool = call.tool
  /-- A reference that has a value has it from the call that it names. -/
  reads : ∀ (reference : Reference) (value : Json),
    reference.resolve outcome.results = .ok value →
    ∃ (call : PlannedCall) (result : ExecutionResult),
      plan.calls[reference.source]? = some call ∧ result ∈ outcome.results ∧
        result.index = reference.source ∧ result.tool = call.tool ∧
        result.structured.field? reference.path = some value
  /-- Only the last result may be an error. -/
  errorLast : ∀ (k : Nat) (result : ExecutionResult), outcome.results[k]? = some result →
    result.isError = true →
    k + 1 = outcome.results.length
  /-- The fields on halting fit the results. -/
  ending : outcome.EndsOneWay plan.calls.length
  /-- Every result is that of the invocation at its own position, with what its references stood
  for at that time; or it has none, and is the failure of a reference without a value. -/
  accounted : ∀ (k : Nat) (result : ExecutionResult), outcome.results[k]? = some result →
    ∃ call, plan.calls[k]? = some call ∧
      Execution.Accounted call (outcome.results.take k) k log[k]? result
  /-- No other invocation was made. -/
  noOther : log.length ≤ outcome.results.length

namespace Sample

/-- A list without rows. -/
def noRows : Json := .obj [("rows", .arr []), ("total", .int 0)]

/-- Tools of which only one works, on a host that shows no date. -/
def host : Host Unit where
  invoke tool _ world :=
    (.ok (if tool = "list" then ⟨noRows, [], false⟩ else .error "no such page"), world)
  now _ := .error .beyondRange
  clock _ := 0
  cancelled _ := false

end Sample

/-- Whatever the plan, the tool runtime, the signals and the tracker: an outcome can be relied
on. -/
theorem execute_record {σ ω : Type} {host : Host σ} {plan : ToolCalls} {deadline : Option Deadline}
    {tracker : Option (Tracker ω)} {world : σ} {outcome : Outcome}
    (h : (execute host plan deadline tracker world).1 = .ok outcome) :
    RunRecord plan outcome (invocations host plan deadline tracker world) := by
  have concluded := Execution.execute_concluded h
  have inOrder : ∀ (k : Nat) (result : ExecutionResult), outcome.results[k]? = some result →
      ∃ call, plan.calls[k]? = some call ∧ result.index = k ∧ result.tool = call.tool := by
    intro k result hresult
    obtain ⟨call, called, accounted⟩ := concluded.accounted hresult
    exact ⟨call, called, accounted.index⟩
  refine ⟨inOrder, ?_, fun k result => Outcome.error_last concluded.ending,
    Outcome.endsOneWay concluded.ending, fun k result => concluded.accounted,
    concluded.log_length_le⟩
  intro reference value hvalue
  unfold Reference.resolve at hvalue
  split at hvalue
  · cases hvalue
  · next result hresult =>
      split at hvalue
      · cases hvalue
      · next value' hfield =>
          cases hvalue
          obtain ⟨call, called, hindex, htool⟩ := inOrder _ _ hresult
          exact ⟨call, result, called, List.mem_of_getElem? hresult, hindex, htool, hfield⟩

theorem execute_record_refused :
    ∃ outcome,
      (execute Sample.host (Sample.plan "$0.output.total") none (none : Option (Tracker Unit)) ()).1
        = .ok outcome ∧ outcome.haltedAt = some 1 ∧
      RunRecord (Sample.plan "$0.output.total") outcome
        (invocations Sample.host (Sample.plan "$0.output.total") none
          (none : Option (Tracker Unit)) ()) :=
  ⟨_, rfl, rfl, execute_record rfl⟩

end CallPlan
