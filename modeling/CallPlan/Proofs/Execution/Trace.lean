import CallPlan.Proofs.Execution.Log

/-!
# CallPlan.Proofs.Execution.Trace

The steps that a run reports.

* `Execution.CallTrace` lists what one call does to the world, the tracker and the results of a run
  that is tracked; `runCall_trace` is the only place where the definition of a call is opened for
  this. `Execution.RunTrace` is the run, call by call.
* A call that gets a result reports one step of its own, which says what the result says, and after
  it one for the skill that the output names (`Reported`). A call that is never started reports
  nothing.
* So the steps of a run that has an outcome are those of its results, in order
  (`RunTrace.narration`).
-/

namespace CallPlan

variable {σ ω : Type}

/-! ### What the tracker keeps -/

namespace Tracker

variable (tracker : Tracker ω)

@[simp] theorem steps_emit (position : Nat) (step : Step) :
    (tracker.emit position step).steps = tracker.steps := by
  unfold emit
  split <;> rfl

theorem steps_start (kind : StepKind) (content : StepContent) (now : DateTime) :
    (tracker.start kind content now).steps = tracker.steps ++
      [Step.start (tracker.ids tracker.steps.length) tracker.task kind content now] := by
  simp [start]

theorem lastPosition_start (kind : StepKind) (content : StepContent) (now : DateTime) :
    (tracker.start kind content now).lastPosition = tracker.steps.length := by
  simp [lastPosition, steps_start]

/-- The step that was added last is changed, and no other. -/
theorem steps_update_concat {before : List Step} {step : Step} (position : Nat)
    (h : tracker.steps = before ++ [step]) (last : position = before.length) (change : Step → Step) :
    (tracker.update position change).steps = before ++ [change step] := by
  subst last
  unfold update
  rw [h, List.getElem?_concat_length]
  simp

end Tracker

/-! ### The steps of a result -/

namespace ExecutionResult

/-- The skill that the output of a call names. -/
def skill? (result : ExecutionResult) : Option String :=
  if result.isError then none
  else
    match Wrapped.skillId? result.structured with
    | some skill => if skill = "" then none else some skill
    | none => none

/-- What is said of a call that failed, where something can be said. -/
def failureText (result : ExecutionResult) : String :=
  match result.errorMessage with
  | .ok (some message) => if message = "" then "tool error" else message
  | _ => "tool error"

theorem failureText_of_said {result : ExecutionResult} {message : Option String}
    (said : result.errorMessage = .ok message) :
    result.failureText = if message.getD "" = "" then "tool error" else message.getD "" := by
  rw [failureText, said]
  cases message <;> rfl

theorem errorMessage_of_error (index : Int) (tool : String) {message : String} (h : message ≠ "")
    (duration : Int) :
    (ofCall index tool (.error message) duration).errorMessage = .ok (some message) := by
  have described : (ofCall index tool (.error message) duration).text = message := by
    simp [text, ofCall, CallResult.error, ContentBlock.ofText, h]
  rw [errorMessage, described, if_pos h]
  rfl

theorem failureText_of_error (index : Int) (tool : String) {message : String} (h : message ≠ "")
    (duration : Int) :
    (ofCall index tool (.error message) duration).failureText = message := by
  rw [failureText_of_said (errorMessage_of_error index tool h duration)]
  exact if_neg h

end ExecutionResult

theorem Unresolved.message_ne_empty {cause : Unresolved}
    (short : ∀ long, cause ≠ .longIndex long) : cause.message ≠ "" := by
  intro empty
  have length := congrArg String.length empty
  cases cause with
  | longIndex long => exact short long rfl
  | noResult reference count => simp [message] at length
  | noField reference tool => simp [message] at length

/-- The step of a call that begins. -/
def Step.ofCall (id task tool : String) (arguments : Members) (started : DateTime) : Step :=
  .start id task .toolExecution { tool := some tool, arguments := some arguments } started

/-- The step of a call that ends with a result. -/
def Step.endWith (step : Step) (result : ExecutionResult) (now : DateTime) : Step :=
  if result.isError then step.fail (.str result.failureText) now
  else step.complete result.structured now

/-- A step that says of a call what its result says. -/
structure ReportsCall (arguments : Members) (result : ExecutionResult) (step : Step) : Prop where
  kind : step.kind = .toolExecution
  tool : step.content.tool = some result.tool
  arguments : step.content.arguments = some arguments
  status : step.status = if result.isError then .failed else .completed
  output : step.result = if result.isError then .null else result.structured
  said : ∃ message, result.errorMessage = .ok message
  errorMessage : step.errorMessage = if result.isError then .str result.failureText else .null

theorem reportsCall_endWith (id task : String) (arguments : Members) {result : ExecutionResult}
    (said : ∃ message, result.errorMessage = .ok message) (started ended : DateTime) :
    ReportsCall arguments result
      ((Step.ofCall id task result.tool arguments started).endWith result ended) := by
  unfold Step.endWith
  cases failed : result.isError with
  | true =>
      exact ⟨rfl, rfl, rfl, by rw [failed]; rfl, by rw [failed]; rfl, said, by rw [failed]; rfl⟩
  | false =>
      have completed : (Step.ofCall id task result.tool arguments started).complete
            result.structured ended
          = { (Step.ofCall id task result.tool arguments started).finish .completed ended with
              result := result.structured } := by
        by_cases null : result.structured = .null
        · rw [Step.complete, if_neg fun h => h.1 null, null]
          rfl
        · rw [Step.complete, if_pos ⟨null, rfl⟩]
      rw [if_neg Bool.false_ne_true, completed]
      exact ⟨rfl, rfl, rfl, by rw [failed]; rfl, by rw [failed]; rfl, said, by rw [failed]; rfl⟩

/-- A step that says that a skill was used. -/
structure ReportsSkill (skill : String) (step : Step) : Prop where
  kind : step.kind = .skillUsage
  status : step.status = .completed
  skillId : step.content.skillId = some skill

/-- The steps of a call with a result: its own, and that of the skill that its output names. -/
inductive Reported (arguments : Members) (result : ExecutionResult) : List Step → Prop where
  | unskilled {step : Step} (call : ReportsCall arguments result step)
      (none : result.skill? = none) : Reported arguments result [step]
  | skilled {step use : Step} {skill : String} (call : ReportsCall arguments result step)
      (named : result.skill? = some skill) (used : ReportsSkill skill use) :
      Reported arguments result [step, use]

/-- Of what kinds the steps of a result are. -/
def ExecutionResult.stepKinds (result : ExecutionResult) : List StepKind :=
  .toolExecution :: if result.skill?.isSome then [.skillUsage] else []

/-- A step that is no longer pending or in progress. -/
def Step.HasEnded (step : Step) : Prop := step.status = .completed ∨ step.status = .failed

theorem ReportsCall.hasEnded {arguments : Members} {result : ExecutionResult} {step : Step}
    (h : ReportsCall arguments result step) : step.HasEnded := by
  unfold Step.HasEnded
  rw [h.status]
  split
  · exact .inr rfl
  · exact .inl rfl

section
variable {arguments : Members} {result : ExecutionResult} {steps : List Step}

theorem Reported.kinds (h : Reported arguments result steps) :
    steps.map (·.kind) = result.stepKinds := by
  cases h with
  | unskilled call none => simp [ExecutionResult.stepKinds, none, call.kind]
  | skilled call named used => simp [ExecutionResult.stepKinds, named, call.kind, used.kind]

theorem Reported.hasEnded (h : Reported arguments result steps) : ∀ step ∈ steps, step.HasEnded := by
  cases h with
  | unskilled call none => simpa using call.hasEnded
  | skilled call named used => simpa using ⟨call.hasEnded, Or.inl used.status⟩

end

/-! ### The steps of a call -/

namespace Execution

/-- The step that a call added when it began is the step that changes when it ends. -/
theorem steps_update_toolExecution (tracker : Tracker ω) (tool : String) (arguments : Members)
    (started : DateTime) (change : Step → Step) :
    let begun := tracker.toolExecution tool arguments started
    (begun.update begun.lastPosition change).steps = tracker.steps ++
      [change (Step.ofCall (tracker.ids tracker.steps.length) tracker.task tool arguments
        started)] :=
  Tracker.steps_update_concat _ _ (tracker.steps_start _ _ _) (tracker.lastPosition_start _ _ _)
    change

theorem exists_reportsSkill (tracker : Tracker ω) (skill : String) (name : Option String)
    (now : DateTime) :
    ∃ use, (tracker.skillUsage skill name now).steps = tracker.steps ++ [use] ∧
      ReportsSkill skill use :=
  ⟨_, tracker.steps_start _ _ _, rfl, rfl, rfl⟩

/-- What is told of an invocation that came back: how it ended, and the skill that it used. -/
theorem reportResult_eq {result : ExecutionResult} {message : Option String}
    (said : result.errorMessage = .ok message) (now : DateTime) (tracker : Tracker ω) :
    reportResult result message now tracker =
      let ended := tracker.update tracker.lastPosition (·.endWith result now)
      match result.skill? with
      | some skill => ended.skillUsage skill (Wrapped.skillName? result.structured) now
      | none => ended := by
  unfold reportResult ExecutionResult.skill? Step.endWith
  rw [ExecutionResult.failureText_of_said said]
  cases failed : result.isError with
  | true => rfl
  | false =>
      cases Wrapped.skillId? result.structured with
      | none => simp [Tracker.complete]
      | some skill => by_cases empty : skill = "" <;> simp [empty, Tracker.complete]

theorem exists_reported (tracker : Tracker ω) (arguments : Members) {result : ExecutionResult}
    {message : Option String} (said : result.errorMessage = .ok message) (started ended : DateTime) :
    ∃ steps,
      (reportResult result message ended (tracker.toolExecution result.tool arguments started)).steps
        = tracker.steps ++ steps ∧ Reported arguments result steps := by
  rw [reportResult_eq said]
  have ends := steps_update_toolExecution tracker result.tool arguments started
    (·.endWith result ended)
  have reports := reportsCall_endWith (tracker.ids tracker.steps.length) tracker.task arguments
    ⟨message, said⟩ started ended
  cases named : result.skill? with
  | none => exact ⟨_, ends, .unskilled reports named⟩
  | some skill =>
      obtain ⟨use, added, used⟩ := exists_reportsSkill (((tracker.toolExecution result.tool
        arguments started)).update _ (·.endWith result ended)) skill
        (Wrapped.skillName? result.structured) ended
      refine ⟨_, added.trans ?_, .skilled reports named used⟩
      rw [ends, List.append_assoc]
      rfl

/-! ### Tracked runs -/

/-- A run that is tracked, between two calls. -/
structure TrackedState (σ ω : Type) where
  world : σ
  tracker : Tracker ω
  results : List ExecutionResult

def TrackedState.state (tracked : TrackedState σ ω) : RunState σ ω :=
  ⟨tracked.world, some tracked.tracker, tracked.results⟩

/-- All that a call of a tracked run can come to: how the run ends there, if it does, and what the
world, the tracker and the results are afterwards. -/
inductive CallTrace (host : Host σ) (deadline : Option Deadline) (index : Nat) (call : PlannedCall)
    (before : TrackedState σ ω) : Option RunEnd → TrackedState σ ω → Prop where
  /-- The run was cancelled before. -/
  | cancelled (stop : stopped host deadline before.world = true) :
      CallTrace host deadline index call before (some (.halted index .cancelled)) before
  /-- The index of a reference is too long. -/
  | longIndex {long : LongIndex}
      (unresolved : substituteArguments call.arguments before.results = .error (.longIndex long)) :
      CallTrace host deadline index call before
        (some (.failed (.unchecked (.longIndex long)))) before
  /-- The beginning of the call, or its failure without being invoked, cannot be dated. -/
  | undatedBefore {failure : Failure} (undated : host.now before.world = .error failure) :
      CallTrace host deadline index call before (some (.failed failure)) before
  /-- A reference has no value: a step is reported that ends at once. -/
  | unresolved {cause : Unresolved} {now : DateTime} {result : ExecutionResult}
      {begun : Tracker ω} (short : ∀ long, cause ≠ .longIndex long)
      (unresolved : substituteArguments call.arguments before.results = .error cause)
      (dated : host.now before.world = .ok now)
      (recorded : result = .ofCall index call.tool (.error cause.message) 0)
      (begins : begun = before.tracker.toolExecution call.tool call.arguments now) :
      CallTrace host deadline index call before (some (.halted index .toolError))
        ⟨before.world, begun.update begun.lastPosition (·.endWith result now),
          before.results ++ [result]⟩
  /-- The tool runtime fails: the step ends with what it says. -/
  | raised {arguments : Members} {failure : Failure} {world : σ} {started ended : DateTime}
      {begun : Tracker ω}
      (resolved : substituteArguments call.arguments before.results = .ok arguments)
      (dated : host.now before.world = .ok started)
      (begins : begun = before.tracker.toolExecution call.tool arguments started)
      (invoked : host.invoke call.tool arguments before.world = (.error failure, world))
      (datedEnd : host.now world = .ok ended) :
      CallTrace host deadline index call before (some (.failed failure))
        ⟨world, begun.fail begun.lastPosition (.str failure.message) ended, before.results⟩
  /-- The end of the call cannot be dated: its step ends without a date. -/
  | undatedAfter {arguments : Members} {returned : Except Failure CallResult} {failure : Failure}
      {world : σ} {started : DateTime} {begun : Tracker ω} (failed : Bool)
      (results : List ExecutionResult)
      (resolved : substituteArguments call.arguments before.results = .ok arguments)
      (dated : host.now before.world = .ok started)
      (begins : begun = before.tracker.toolExecution call.tool arguments started)
      (invoked : host.invoke call.tool arguments before.world = (returned, world))
      (undated : host.now world = .error failure) :
      CallTrace host deadline index call before (some (.failed failure))
        ⟨world, begun.endUndated begun.lastPosition (if failed then .failed else .completed),
          results⟩
  /-- The tool returns an error about which nothing can be said: the step stays as it is. -/
  | wordless {arguments : Members} {returned : CallResult} {world : σ} {duration : Int}
      {started : DateTime} {result : ExecutionResult} {long : LongNumber}
      (resolved : substituteArguments call.arguments before.results = .ok arguments)
      (dated : host.now before.world = .ok started)
      (invoked : host.invoke call.tool arguments before.world = (.ok returned, world))
      (recorded : result = .ofCall index call.tool returned duration)
      (unsaid : result.errorMessage = .error long) :
      CallTrace host deadline index call before (some (.failed (.ofLongNumber long)))
        ⟨world, before.tracker.toolExecution call.tool arguments started,
          before.results ++ [result]⟩
  /-- The tool returns: the step ends with the result. -/
  | returned {arguments : Members} {returned : CallResult} {world : σ} {duration : Int}
      {started ended : DateTime} {result : ExecutionResult} {message : Option String}
      (resolved : substituteArguments call.arguments before.results = .ok arguments)
      (dated : host.now before.world = .ok started)
      (invoked : host.invoke call.tool arguments before.world = (.ok returned, world))
      (datedEnd : host.now world = .ok ended)
      (recorded : result = .ofCall index call.tool returned duration)
      (said : result.errorMessage = .ok message) :
      CallTrace host deadline index call before
        (if result.isError then some (.halted index .toolError) else none)
        ⟨world, reportResult result message ended
          (before.tracker.toolExecution result.tool arguments started),
          before.results ++ [result]⟩

section
variable {host : Host σ} {deadline : Option Deadline} {index : Nat} {call : PlannedCall}

theorem unresolvable_trace {before : TrackedState σ ω} {cause : Unresolved}
    (short : ∀ long, cause ≠ .longIndex long)
    (unresolved : substituteArguments call.arguments before.results = .error cause) :
    ∃ ending after,
      unresolvable host index call cause.message before.state = (ending, after.state) ∧
        CallTrace host deadline index call before (some ending) after := by
  unfold unresolvable TrackedState.state
  cases dated : host.now before.world with
  | error failure => exact ⟨_, before, rfl, .undatedBefore dated⟩
  | ok now =>
      have told : (ExecutionResult.ofCall index call.tool (.error cause.message) 0).failureText
          = cause.message :=
        ExecutionResult.failureText_of_error _ _ (Unresolved.message_ne_empty short) _
      refine ⟨_, _, ?_, .unresolved short unresolved dated rfl rfl⟩
      simp only [Step.endWith, told]
      rfl

theorem settle_trace {before : TrackedState σ ω} {arguments : Members} {started : DateTime}
    {returned : Except Failure CallResult} {world : σ} (clock : Int)
    (resolved : substituteArguments call.arguments before.results = .ok arguments)
    (dated : host.now before.world = .ok started)
    (invoked : host.invoke call.tool arguments before.world = (returned, world)) :
    ∃ ending after,
      settle host index call.tool clock returned
          ⟨world, some (before.tracker.toolExecution call.tool arguments started), before.results⟩
        = (ending, after.state) ∧
        CallTrace host deadline index call before ending after := by
  cases returned with
  | error failure =>
      cases datedEnd : host.now world with
      | error failure' =>
          refine ⟨_, _, ?_, .undatedAfter true before.results resolved dated rfl invoked datedEnd⟩
          simp only [settle, datedEnd]
          rfl
      | ok ended =>
          refine ⟨_, _, ?_, .raised resolved dated rfl invoked datedEnd⟩
          simp only [settle, datedEnd]
          rfl
  | ok returned =>
      obtain ⟨result, recorded⟩ : ∃ result, result = ExecutionResult.ofCall index call.tool returned
        (Deadline.elapsed clock (host.clock world)) := ⟨_, rfl⟩
      have tool : result.tool = call.tool := by rw [recorded]; rfl
      cases said : result.errorMessage with
      | error long =>
          refine ⟨_, _, ?_, .wordless resolved dated invoked recorded said⟩
          simp only [settle, ← recorded, said]
          rfl
      | ok message =>
          cases datedEnd : host.now world with
          | error failure' =>
              refine ⟨_, _, ?_, .undatedAfter result.isError (before.results ++ [result]) resolved
                dated rfl invoked datedEnd⟩
              simp only [settle, datedEnd, ← recorded, said]
              rfl
          | ok ended =>
              refine ⟨_, _, ?_, .returned resolved dated invoked datedEnd recorded said⟩
              simp only [settle, datedEnd, ← recorded, said, tool]
              rfl

theorem runCall_trace (host : Host σ) (deadline : Option Deadline) (index : Nat)
    (call : PlannedCall) (before : TrackedState σ ω) :
    ∃ ending after, runCall host deadline index call before.state = (ending, after.state) ∧
      CallTrace host deadline index call before ending after := by
  unfold runCall
  by_cases stop : stopped host deadline before.world = true
  · exact ⟨_, before, if_pos stop, .cancelled stop⟩
  · rw [if_neg (by exact stop)]
    cases resolved : substituteArguments call.arguments before.state.results with
    | error cause =>
        cases cause with
        | longIndex long => exact ⟨_, before, rfl, .longIndex resolved⟩
        | noResult reference count =>
            have short : ∀ long, Unresolved.noResult reference count ≠ .longIndex long := fun _ => nofun
            obtain ⟨ending, after, e, trace⟩ := unresolvable_trace short resolved
            exact ⟨_, after, by simp only [e], trace⟩
        | noField reference tool =>
            have short : ∀ long, Unresolved.noField reference tool ≠ .longIndex long := fun _ => nofun
            obtain ⟨ending, after, e, trace⟩ := unresolvable_trace short resolved
            exact ⟨_, after, by simp only [e], trace⟩
    | ok arguments =>
        cases dated : host.now before.world with
        | error failure =>
            refine ⟨_, before, ?_, .undatedBefore dated⟩
            simp only [invokeCall, TrackedState.state, dated]
            rfl
        | ok started =>
            obtain ⟨ending, after, e, trace⟩ :=
              settle_trace (host.clock before.world) resolved dated rfl
            refine ⟨ending, after, ?_, trace⟩
            simp only [invokeCall, TrackedState.state, dated]
            exact e

end

/-- A tracked run from an index on, call by call. -/
inductive RunTrace (host : Host σ) (deadline : Option Deadline) :
    Nat → List PlannedCall → TrackedState σ ω → RunEnd → TrackedState σ ω → Prop where
  | finished {index : Nat} {state : TrackedState σ ω} :
      RunTrace host deadline index [] state .finished state
  | ended {index : Nat} {call : PlannedCall} {rest : List PlannedCall} {ending : RunEnd}
      {before after : TrackedState σ ω}
      (step : CallTrace host deadline index call before (some ending) after) :
      RunTrace host deadline index (call :: rest) before ending after
  | passed {index : Nat} {call : PlannedCall} {rest : List PlannedCall} {ending : RunEnd}
      {before between after : TrackedState σ ω}
      (step : CallTrace host deadline index call before none between)
      (next : RunTrace host deadline (index + 1) rest between ending after) :
      RunTrace host deadline index (call :: rest) before ending after

theorem runFrom_trace (host : Host σ) (deadline : Option Deadline) (index : Nat)
    (calls : List PlannedCall) (before : TrackedState σ ω) :
    ∃ ending after, runFrom host deadline index calls before.state = (ending, after.state) ∧
      RunTrace host deadline index calls before ending after := by
  induction calls generalizing index before with
  | nil => exact ⟨_, before, rfl, .finished⟩
  | cons call rest ih =>
      obtain ⟨ending, between, e, step⟩ := runCall_trace host deadline index call before
      rw [runFrom, e]
      cases ending with
      | some ending => exact ⟨ending, between, rfl, .ended step⟩
      | none =>
          obtain ⟨ending, after, e, next⟩ := ih (index + 1) between
          exact ⟨ending, after, e, .passed step next⟩

theorem execute_trace (host : Host σ) (plan : ToolCalls) (deadline : Option Deadline)
    (tracker : Tracker ω) (world : σ) :
    ∃ ending after,
      execute host plan deadline (some tracker) world
        = (outcome ending after.results, after.world, some after.tracker) ∧
      RunTrace host deadline 0 plan.calls ⟨world, tracker, []⟩ ending after := by
  obtain ⟨ending, after, e, trace⟩ :=
    runFrom_trace host deadline 0 plan.calls ⟨world, tracker, []⟩
  refine ⟨ending, after, ?_, trace⟩
  unfold execute
  rw [TrackedState.state] at e
  rw [e]
  rfl

/-! ### The steps of a run -/

/-- The steps that a call with a result reports, after the results of the calls before: its
arguments are those that the tool was handed, or those of the plan if a reference has no value. -/
inductive Told (call : PlannedCall) (earlier : List ExecutionResult) (result : ExecutionResult)
    (steps : List Step) : Prop where
  | invoked {arguments : Members}
      (resolved : substituteArguments call.arguments earlier = .ok arguments)
      (reported : Reported arguments result steps)
  | unresolved {cause : Unresolved}
      (unresolved : substituteArguments call.arguments earlier = .error cause)
      (failed : result.isError = true) (reported : Reported call.arguments result steps)

/-- The steps that calls report, a block of them for each result. -/
inductive Narration : List PlannedCall → List ExecutionResult → List ExecutionResult →
    List (List Step) → Prop where
  | stop {calls : List PlannedCall} {earlier : List ExecutionResult} : Narration calls earlier [] []
  | call {call : PlannedCall} {rest : List PlannedCall} {earlier results : List ExecutionResult}
      {result : ExecutionResult} {steps : List Step} {blocks : List (List Step)}
      (told : Told call earlier result steps)
      (next : Narration rest (earlier ++ [result]) results blocks) :
      Narration (call :: rest) earlier (result :: results) (steps :: blocks)

theorem Told.reported {call : PlannedCall} {earlier : List ExecutionResult}
    {result : ExecutionResult} {steps : List Step} (h : Told call earlier result steps) :
    ∃ arguments, Reported arguments result steps := by
  cases h with
  | invoked resolved reported => exact ⟨_, reported⟩
  | unresolved unresolved failed reported => exact ⟨_, reported⟩

section
variable {calls : List PlannedCall} {earlier results : List ExecutionResult}
  {blocks : List (List Step)}

theorem Narration.kinds (h : Narration calls earlier results blocks) :
    blocks.flatten.map (·.kind) = results.flatMap ExecutionResult.stepKinds := by
  induction h with
  | stop => rfl
  | call told next ih =>
      obtain ⟨arguments, reported⟩ := told.reported
      rw [List.flatten_cons, List.map_append, reported.kinds, ih, List.flatMap_cons]

theorem Narration.hasEnded (h : Narration calls earlier results blocks) :
    ∀ step ∈ blocks.flatten, step.HasEnded := by
  induction h with
  | stop => simp
  | call told next ih =>
      obtain ⟨arguments, reported⟩ := told.reported
      rw [List.flatten_cons, List.forall_mem_append]
      exact ⟨reported.hasEnded, ih⟩

end

section
variable {host : Host σ} {deadline : Option Deadline} {index : Nat}
  {before after : TrackedState σ ω}

/-- A call at which a run does not fail has no result and reports nothing, or it reports the steps of
its result. -/
theorem CallTrace.told {call : PlannedCall} {ending : Option RunEnd}
    (h : CallTrace host deadline index call before ending after)
    (ends : ∀ failure, ending ≠ some (.failed failure)) :
    (after = before ∧ ending.isSome = true) ∨
      ∃ result steps, after.results = before.results ++ [result] ∧
        after.tracker.steps = before.tracker.steps ++ steps ∧
        Told call before.results result steps := by
  cases h with
  | cancelled stop => exact .inl ⟨rfl, rfl⟩
  | longIndex unresolved => exact absurd rfl (ends _)
  | undatedBefore undated => exact absurd rfl (ends _)
  | raised resolved dated begins invoked datedEnd => exact absurd rfl (ends _)
  | undatedAfter failed results resolved dated begins invoked undated => exact absurd rfl (ends _)
  | wordless resolved dated invoked recorded unsaid => exact absurd rfl (ends _)
  | @unresolved cause now result begun short unresolved dated recorded begins =>
      subst begins
      have steps := steps_update_toolExecution before.tracker call.tool call.arguments now
        (·.endWith result now)
      have tool : result.tool = call.tool := by rw [recorded]; rfl
      have failed : result.isError = true := by rw [recorded]; rfl
      have said : ∃ message, result.errorMessage = .ok message :=
        ⟨_, recorded ▸ ExecutionResult.errorMessage_of_error _ _
          (Unresolved.message_ne_empty short) _⟩
      have reports := reportsCall_endWith (before.tracker.ids before.tracker.steps.length)
        before.tracker.task call.arguments said now now
      rw [tool] at reports
      refine .inr ⟨result, _, rfl, steps, .unresolved unresolved failed (.unskilled reports ?_)⟩
      rw [ExecutionResult.skill?, if_pos failed]
  | @returned arguments returned world duration started ended result message resolved dated invoked
      datedEnd recorded said =>
      obtain ⟨steps, added, reported⟩ :=
        exists_reported before.tracker arguments said started ended
      exact .inr ⟨result, steps, rfl, added, .invoked resolved reported⟩

/-- The steps of a run that does not fail are those of its results. -/
theorem RunTrace.narration {calls : List PlannedCall} {ending : RunEnd}
    (h : RunTrace host deadline index calls before ending after)
    (ends : ∀ failure, ending ≠ .failed failure) :
    ∃ results blocks, after.results = before.results ++ results ∧
      after.tracker.steps = before.tracker.steps ++ blocks.flatten ∧
      Narration calls before.results results blocks := by
  -- along the run, so that what is narrated grows at its front and the results so far at their end
  induction h with
  | finished => exact ⟨[], [], by simp, by simp, .stop⟩
  | ended step =>
      rcases step.told fun failure e => ends failure (Option.some.inj e) with
        ⟨rfl, -⟩ | ⟨result, steps, hresults, hsteps, told⟩
      · exact ⟨[], [], by simp, by simp, .stop⟩
      · exact ⟨[result], [steps], hresults, by simpa using hsteps, .call told .stop⟩
  | passed step next ih =>
      rcases step.told nofun with ⟨-, absurd⟩ | ⟨result, steps, hresults, hsteps, told⟩
      · cases absurd
      · obtain ⟨results, blocks, hresults', hsteps', narration⟩ := ih ends
        rw [hresults] at hresults' narration
        rw [hsteps] at hsteps'
        exact ⟨result :: results, steps :: blocks, by simpa using hresults',
          by simpa using hsteps', .call told narration⟩

end

end Execution

/-! ### Steps that have ended -/

/-- A tracker has gained steps of some kinds, all of which have ended. -/
def Tracker.Gained (before after : Tracker ω) (kinds : List StepKind) : Prop :=
  ∃ steps, after.steps = before.steps ++ steps ∧ steps.map (·.kind) = kinds ∧
    ∀ step ∈ steps, step.HasEnded

namespace Tracker

theorem gained_start (tracker : Tracker ω) {kind : StepKind} (instant : kind.isInstant = true)
    (content : StepContent) (now : DateTime) :
    tracker.Gained (tracker.start kind content now) [kind] := by
  refine ⟨_, tracker.steps_start kind content now, rfl, ?_⟩
  rw [List.forall_mem_singleton, Step.HasEnded, Step.start, instant]
  exact .inl rfl

theorem Gained.trans {first second third : Tracker ω} {kinds kinds' : List StepKind}
    (h : first.Gained second kinds) (h' : second.Gained third kinds') :
    first.Gained third (kinds ++ kinds') := by
  obtain ⟨steps, added, same, ended⟩ := h
  obtain ⟨steps', added', same', ended'⟩ := h'
  refine ⟨steps ++ steps', ?_, ?_, ?_⟩
  · rw [added', added, List.append_assoc]
  · rw [List.map_append, same, same']
  · rw [List.forall_mem_append]
    exact ⟨ended, ended'⟩

end Tracker

/-- A run with an outcome reports the steps of its results. -/
theorem gained_of_execute {host : Host σ} {plan : ToolCalls} {deadline : Option Deadline}
    {tracker tracker' : Tracker ω} {world world' : σ} {outcome : Outcome}
    (h : execute host plan deadline (some tracker) world = (.ok outcome, world', some tracker')) :
    tracker.Gained tracker' (outcome.results.flatMap ExecutionResult.stepKinds) := by
  obtain ⟨ending, after, e, trace⟩ := Execution.execute_trace host plan deadline tracker world
  rw [h] at e
  obtain ⟨ends, rest⟩ := Prod.mk.inj e
  obtain ⟨-, tracked⟩ := Prod.mk.inj rest
  -- a run that failed has no outcome
  have returned : ∀ failure, ending ≠ .failed failure := by
    rintro failure rfl
    cases ends
  have results_eq : outcome.results = after.results := by
    cases ending with
    | finished => cases ends; rfl
    | halted position reason => cases ends; rfl
    | failed failure => exact absurd rfl (returned failure)
  obtain ⟨results, blocks, hresults, hsteps, narration⟩ := trace.narration returned
  obtain rfl := Option.some.inj tracked
  refine ⟨blocks.flatten, hsteps, ?_, narration.hasEnded⟩
  rw [narration.kinds, results_eq, hresults, List.nil_append]

end CallPlan
