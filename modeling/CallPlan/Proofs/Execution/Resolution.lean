import CallPlan.Proofs.Execution.Outcome
import CallPlan.Proofs.Schema.Instance

/-!
# CallPlan.Proofs.Execution.Resolution

What validation promises about runs.

* `Execution.Returns` relates what the tools return in a run to their output schemas.
* If every success is a complete instance of its schema, no reference of an accepted plan is without
  a value: a run fails at no call that was not cut off by something that came from outside
  (`execute_resolves`).
* If every success conforms to its schema, every argument that replaces a reference conforms to the
  schema of the field that validation looked at, and so to the types of the argument
  (`execute_conforms`).
* Both rest on `resolve_of_admissible`: validation and resolution look at the same place.
-/

namespace CallPlan

namespace Execution

variable {σ ω : Type}

/-- What is returned without an error is related to the output schema of the tool. -/
def Returns (registry : Registry) (R : Json → Json → Prop) (log : List Invocation) : Prop :=
  ∀ invocation ∈ log, ∀ returned, invocation.returned = .ok returned →
    returned.isError = false → ∀ schema, registry.lookup invocation.tool = some schema →
      R (.obj schema.output) returned.structured

theorem Returns.of_prefix {registry : Registry} {R : Json → Json → Prop}
    {log more : List Invocation} (h : Returns registry R more) (before : log <+: more) :
    Returns registry R log :=
  fun invocation hmem => h invocation (before.subset hmem)

/-! ### One reference -/

theorem resolveText_of_not_meant {results : List ExecutionResult} {text : String}
    (h : Reference.looksLike text ≠ true) : Reference.resolveText results text = .ok (.str text) := by
  rw [Reference.resolveText, Reference.parse_of_not_meant h]

/-- What a text of the arguments of a call refers to, after calls that passed: a field that the tool
of an earlier call declares, and the content that this call returned. -/
inductive Refers (registry : Registry) (plan : ToolCalls) (R : Json → Json → Prop)
    (results : List ExecutionResult) (input : Json) (place : Location) (text : String) : Prop where
  | intro {reference : Reference} {source : PlannedCall} {schema : ToolSchema}
      {field content : Json} (parsed : Reference.parse text = .ok (some reference))
      (called : plan.calls[reference.source]? = some source)
      (known : registry.lookup source.tool = some schema)
      (declared : Schema.field (.obj schema.output) reference.path = .found field)
      (agree : Validation.Agree (TypeSet.ofDeclared? (field.get? "type"))
        (Schema.typeAt input place))
      (related : R (.obj schema.output) content)
      (resolves : ∀ value, content.field? reference.path = some value →
        Reference.resolveText results text = .ok value) :
      Refers registry plan R results input place text

section
variable {registry : Registry} {plan : ToolCalls} {k : Nat} {log : List Invocation}
  {results : List ExecutionResult}

/-- What validation looked at is what is read in a run. -/
theorem refers_of_admissible {R : Json → Json → Prop}
    (accepted : Validation.Accepted registry plan)
    (answered : Answered (plan.calls.take k) log results) (returns : Returns registry R log)
    {input : Json} {place : Location} {text : String}
    (admissible : Validation.Admissible registry plan k input place text) :
    Refers registry plan R results input place text := by
  cases admissible with
  | @intro reference source field parsed earlier called declared agree =>
      obtain ⟨schema, known, -⟩ := accepted _ _ called
      rw [Validation.outputSchema, known] at declared
      have passed : (plan.calls.take k)[reference.source]? = some source := by
        rw [List.getElem?_take_of_lt earlier, called]
      obtain ⟨arguments, returned, duration, -, hlog, succeeded, hresult⟩ := answered.at passed
      have related := returns _ (List.mem_of_getElem? hlog) returned rfl succeeded schema known
      refine .intro parsed called known declared agree related fun value hvalue => ?_
      simp [Reference.resolveText, parsed, Reference.resolve, hresult, ExecutionResult.ofCall, hvalue]

/-- After calls that passed, the references of the next call have values. -/
theorem resolved_of_answered (accepted : Validation.Accepted registry plan)
    (answered : Answered (plan.calls.take k) log results)
    (complete : Returns registry Schema.CompleteOutput log) {call : PlannedCall}
    (called : plan.calls[k]? = some call) :
    ∃ arguments, substituteArguments call.arguments results = .ok arguments := by
  obtain ⟨schema, -, admissible⟩ := accepted k call called
  refine Json.exists_mapMemberLeavesM fun place text hleaf => ?_
  by_cases meant : Reference.looksLike text = true
  · cases refers_of_admissible accepted answered complete (admissible place text hleaf meant) with
    | intro parsed called known declared agree related resolves =>
        obtain ⟨value, hvalue⟩ := Schema.field?_of_complete related declared
        exact ⟨value, resolves value hvalue⟩
  · exact ⟨_, resolveText_of_not_meant meant⟩

theorem resolved_of_calls_eq (accepted : Validation.Accepted registry plan)
    {done rest : List PlannedCall} {call : PlannedCall} (calls_eq : plan.calls = done ++ call :: rest)
    (answered : Answered done log results)
    (complete : Returns registry Schema.CompleteOutput log) :
    ∃ arguments, substituteArguments call.arguments results = .ok arguments := by
  have called : plan.calls[done.length]? = some call := by simp [calls_eq]
  have done_eq : plan.calls.take done.length = done := by simp [calls_eq]
  have answered : Answered (plan.calls.take done.length) log results := by rwa [done_eq]
  exact resolved_of_answered accepted answered complete called

end

/-! ### Runs of accepted plans -/

/-- A run comes to a call, in a state. -/
def ComesTo (host : Host σ) (plan : ToolCalls) (deadline : Option Deadline)
    (tracker : Option (Tracker ω)) (world : σ) (k : Nat) (state : RunState σ ω) : Prop :=
  runFrom host deadline 0 (plan.calls.take k) ⟨world, tracker, []⟩ = (.finished, state)

/-- A call is cut off by something that comes from outside. -/
inductive CutOff (host : Host σ) (plan : ToolCalls) (deadline : Option Deadline)
    (tracker : Option (Tracker ω)) (world : σ) (k : Nat) : Prop where
  /-- The run was cancelled before it, or before a call that precedes it. -/
  | cancelled {outcome : Outcome} {position : Nat}
      (ran : (execute host plan deadline tracker world).1 = .ok outcome)
      (haltedAt : outcome.haltedAt = some position)
      (haltReason : outcome.haltReason = some .cancelled) (upTo : position ≤ k) :
      CutOff host plan deadline tracker world k
  /-- A tool returned an error for a call that precedes it. -/
  | refused {position : Nat} {invocation : Invocation} {returned : CallResult}
      (invoked : (invocations host plan deadline tracker world)[position]? = some invocation)
      (came : invocation.returned = .ok returned) (isError : returned.isError = true)
      (before : position < k) : CutOff host plan deadline tracker world k
  /-- The tool runtime failed at a call that precedes it. -/
  | raised {position : Nat} {invocation : Invocation} {failure : Failure}
      (invoked : (invocations host plan deadline tracker world)[position]? = some invocation)
      (came : invocation.returned = .error failure) (before : position < k) :
      CutOff host plan deadline tracker world k
  /-- The clock of the host showed no date that the step of this call, or of one that precedes it,
  could be given. -/
  | undated {failure : Failure} (tracked : tracker.isSome = true)
      (ran : (execute host plan deadline tracker world).1 = .error failure)
      (undated : host.now (execute host plan deadline tracker world).2.1 = .error failure)
      (upTo : (invocations host plan deadline tracker world).length ≤ k + 1) :
      CutOff host plan deadline tracker world k

section
variable {host : Host σ} {plan : ToolCalls} {deadline : Option Deadline}
  {tracker : Option (Tracker ω)} {world : σ} {registry : Registry}

/-- Where a run comes to a call, all calls before it passed. -/
theorem ComesTo.answered {k : Nat} {state : RunState σ ω}
    (h : ComesTo host plan deadline tracker world k state) :
    ∃ log, Answered (plan.calls.take k) log state.results ∧
      log <+: invocations host plan deadline tracker world := by
  have start : Answered [] ((world, []) : σ × List Invocation).2 [] := .nil
  have ends := @runFrom_ends _ _ host deadline _ [] (plan.calls.take k)
    ⟨(world, []), tracker, []⟩ start rfl
  have unlogged := runFrom_logged host deadline 0 (plan.calls.take k)
    ⟨(world, []), tracker, []⟩
  cases e : runFrom host.logged deadline 0 (plan.calls.take k) ⟨(world, []), tracker, []⟩ with
  | mk ending after =>
      rw [List.length_nil, e] at ends
      rw [e] at unlogged
      obtain ⟨rfl, rfl⟩ : RunEnd.finished = ending ∧ state = after.unlogged :=
        Prod.mk.inj (h.symm.trans unlogged)
      have prefixed : after.world.2 <+: invocations host plan deadline tracker world := by
        have split := runFrom_append e (plan.calls.drop k)
        rw [List.take_append_drop] at split
        have grows := runFrom_log_grows host deadline (0 + (plan.calls.take k).length)
          (plan.calls.drop k) after
        rw [← split] at grows
        exact grows
      cases ends with
      | finished answered => exact ⟨_, answered, prefixed⟩
      | ended calls_eq answered kept step => cases step

/-- The call at which a run ends was invoked or is cut off, and all calls after it are cut off, if
its references have values. -/
theorem invoked_or_cutOff_of_step {done : List PlannedCall} {call : PlannedCall}
    {before after : RunState (σ × List Invocation) ω} {ending : RunEnd}
    (step : CallStep host.logged deadline done.length call before (some ending) after)
    (answered : Answered done before.world.2 before.results)
    (kept : before.tracker.isSome = tracker.isSome)
    (resolved : ∃ arguments, substituteArguments call.arguments before.results = .ok arguments)
    (ran : (execute host plan deadline tracker world).1 = outcome ending after.results)
    (left : (execute host plan deadline tracker world).2.1 = after.world.1)
    (asked : invocations host plan deadline tracker world = after.world.2) :
    ((∃ arguments returned, (invocations host plan deadline tracker world)[done.length]?
        = some ⟨call.tool, arguments, returned⟩) ∨
      CutOff host plan deadline tracker world done.length) ∧
    ∀ k, done.length < k → CutOff host plan deadline tracker world k := by
  obtain ⟨arguments, resolved⟩ := resolved
  have last : ∀ {arguments returned} {world' : σ × List Invocation}, after.world = world' →
      host.logged.invoke call.tool arguments before.world = (returned, world') →
      (invocations host plan deadline tracker world)[done.length]?
        = some ⟨call.tool, arguments, returned⟩ := by
    rintro arguments returned _ rfl invoked
    rw [asked, Host.log_of_invoke invoked, ← answered.length.1, List.getElem?_concat_length]
  cases step with
  | cancelled stop =>
      have cut : ∀ k, done.length ≤ k → CutOff host plan deadline tracker world k :=
        fun k upTo => .cancelled ran rfl rfl upTo
      exact ⟨Or.inr (cut _ (Nat.le_refl _)), fun k beyond => cut k (Nat.le_of_lt beyond)⟩
  | longIndex unresolved => exact nomatch resolved.symm.trans unresolved
  | unresolved unresolved => exact nomatch resolved.symm.trans unresolved
  | undatedBefore tracked undated =>
      have cut : ∀ k, done.length ≤ k → CutOff host plan deadline tracker world k := by
        refine fun k upTo => .undated (kept ▸ tracked) ran (left ▸ undated) ?_
        rw [asked]
        exact Nat.le_succ_of_le (answered.length.1 ▸ upTo)
      exact ⟨Or.inr (cut _ (Nat.le_refl _)), fun k beyond => cut k (Nat.le_of_lt beyond)⟩
  | raised resolved invoked =>
      exact ⟨Or.inl ⟨_, _, last rfl invoked⟩, fun k beyond => .raised (last rfl invoked) rfl beyond⟩
  | undatedAfter resolved invoked tracked undated =>
      refine ⟨Or.inl ⟨_, _, last rfl invoked⟩,
        fun k beyond => .undated (kept ▸ tracked) ran (left ▸ undated) ?_⟩
      rw [asked, Host.log_of_invoke invoked, List.length_append, answered.length.1]
      exact Nat.le_of_lt (Nat.succ_lt_succ beyond)
  | wordless resolved invoked unsaid =>
      have isError := ExecutionResult.isError_of_unsaid unsaid
      exact ⟨Or.inl ⟨_, _, last rfl invoked⟩,
        fun k beyond => .refused (last rfl invoked) rfl isError beyond⟩
  | refused resolved invoked isError said =>
      exact ⟨Or.inl ⟨_, _, last rfl invoked⟩,
        fun k beyond => .refused (last rfl invoked) rfl isError beyond⟩

/-- Every invocation is that of the call at its position, with what its references stood for after
the calls before it, which all passed. -/
theorem answered_of_invoked {k : Nat} {invocation : Invocation}
    (invoked : (invocations host plan deadline tracker world)[k]? = some invocation) :
    ∃ call log results, plan.calls[k]? = some call ∧
      log <+: invocations host plan deadline tracker world ∧
      Answered (plan.calls.take k) log results ∧ invocation.tool = call.tool ∧
      substituteArguments call.arguments results = .ok invocation.arguments := by
  obtain ⟨ending, state, ends, -, -, asked⟩ := execute_ends host plan deadline tracker world
  rw [asked] at invoked ⊢
  obtain ⟨call, results, called, answered, htool, resolved⟩ := ends.invoked invoked
  exact ⟨call, _, results, called, List.take_prefix k _, answered, htool, resolved⟩

/-- In a run of complete results every call is invoked that is not cut off. -/
theorem invoked_or_cutOff (accepted : Validation.Accepted registry plan)
    (complete : Returns registry Schema.CompleteOutput
      (invocations host plan deadline tracker world))
    {k : Nat} {call : PlannedCall} (called : plan.calls[k]? = some call) :
    (∃ arguments returned, (invocations host plan deadline tracker world)[k]?
        = some ⟨call.tool, arguments, returned⟩) ∨
      CutOff host plan deadline tracker world k := by
  obtain ⟨ending, state, ends, ran, left, asked⟩ :=
    execute_ends host plan deadline tracker world
  cases ends with
  | finished answered =>
      obtain ⟨arguments, returned, duration, -, hlog, -, -⟩ := answered.at called
      exact Or.inl ⟨arguments, _, asked ▸ hlog⟩
  | @ended done rest call' before after ending calls_eq answered kept step =>
      have grows : before.world.2 <+: invocations host plan deadline tracker world :=
        asked ▸ step.log_grows
      have resolved := resolved_of_calls_eq accepted calls_eq answered (complete.of_prefix grows)
      have last := invoked_or_cutOff_of_step step answered kept resolved ran left asked
      rcases Nat.lt_trichotomy k done.length with inside | rfl | beyond
      · have passed : done[k]? = some call := by
          rw [calls_eq, List.getElem?_append_left inside] at called
          exact called
        obtain ⟨arguments, returned, duration, -, hlog, -, -⟩ := answered.at passed
        obtain ⟨more, e⟩ := grows
        refine Or.inl ⟨arguments, .ok returned, ?_⟩
        rw [← e, List.getElem?_append_left (List.getElem?_eq_some_iff.1 hlog).1, hlog]
      · obtain rfl : call' = call := by simpa [calls_eq] using called
        exact last.1
      · exact Or.inr (last.2 k beyond)

/-- In a run of complete results every error was returned by the tool runtime. -/
theorem returned_of_error (accepted : Validation.Accepted registry plan)
    {outcome : Outcome} {log : List Invocation} (concluded : Concluded plan.calls outcome log)
    (complete : Returns registry Schema.CompleteOutput log) {k : Nat} {result : ExecutionResult}
    (hresult : outcome.results[k]? = some result) (isError : result.isError = true) :
    ∃ tool arguments returned, log[k]? = some ⟨tool, arguments, .ok returned⟩ ∧
      returned.isError = true ∧ result = .ofCall k tool returned result.duration := by
  cases concluded with
  | completed answered =>
      exact nomatch (answered.succeeded (List.mem_of_getElem? hresult)).symm.trans isError
  | cancelled calls_eq answered =>
      exact nomatch (answered.succeeded (List.mem_of_getElem? hresult)).symm.trans isError
  | unresolved calls_eq answered unresolved =>
      obtain ⟨arguments, resolved⟩ := resolved_of_calls_eq accepted calls_eq answered complete
      exact nomatch resolved.symm.trans unresolved
  | @refused done rest call log results arguments returned duration calls_eq answered resolved
      isError' =>
      obtain ⟨hlog, hresults⟩ := answered.length
      rcases getElem?_concat_cases hresult with ⟨-, hresult⟩ | ⟨rfl, rfl⟩
      · exact nomatch (answered.succeeded (List.mem_of_getElem? hresult)).symm.trans isError
      · refine ⟨call.tool, arguments, returned, ?_, isError', by rw [hresults]; rfl⟩
        rw [hresults, ← hlog, List.getElem?_concat_length]

end

end Execution

namespace Sample

/-- A run of `plan` in `host`, without a tracker. -/
def log : List Invocation :=
  invocations host (plan "$0.output.total") none (none : Option (Tracker Unit)) ()

theorem returns {R : Json → Json → Prop} (h : R (.obj list.output) noRows) :
    Execution.Returns registry R log := by
  have asked : log = [⟨"list", [], .ok ⟨noRows, [], false⟩⟩,
      ⟨"page", [("size", .int 0)], .ok (.error "no such page")⟩] := by rfl
  rw [asked, Execution.Returns]
  simp only [List.forall_mem_cons]
  refine ⟨?_, ?_, by simp⟩
  · intro returned came succeeded schema known
    cases came
    cases known
    exact h
  · intro returned came succeeded
    cases came
    cases succeeded

theorem completeOutput : Schema.CompleteOutput (.obj list.output) noRows := by
  have rows : Schema.properties (.obj list.output) = listed := by rfl
  have leaf : ∀ type value, Schema.Complete (typed type) value := by
    intro type value
    apply Schema.Complete.of_members
    · intro props hprops
      cases hprops
    · intro member hmember
      cases hmember
  refine ⟨.of_members (fun _ _ => ⟨_, rfl⟩) ?_, fun declared => nomatch declared⟩
  simp only [rows, listed, List.forall_mem_cons]
  exact ⟨⟨.arr [], rfl, leaf _ _⟩, ⟨.int 0, rfl, leaf _ _⟩, by simp⟩

end Sample

/-- What is known of a run whose successful calls return complete results. -/
structure RunResolves {σ ω : Type} (host : Host σ) (plan : ToolCalls) (deadline : Option Deadline)
    (tracker : Option (Tracker ω)) (world : σ) : Prop where
  /-- At no call that the run comes to, a reference has no value. -/
  resolved : ∀ (k : Nat) (call : PlannedCall) (state : RunState σ ω),
    plan.calls[k]? = some call →
    Execution.ComesTo host plan deadline tracker world k state →
    ∃ arguments, substituteArguments call.arguments state.results = .ok arguments
  /-- Every call is invoked that is not cut off. -/
  invoked : ∀ (k : Nat) (call : PlannedCall), plan.calls[k]? = some call →
    (∃ arguments returned, (invocations host plan deadline tracker world)[k]?
        = some ⟨call.tool, arguments, returned⟩) ∨
      Execution.CutOff host plan deadline tracker world k
  /-- Every error was returned by the tool runtime. -/
  errors : ∀ (outcome : Outcome) (k : Nat) (result : ExecutionResult),
    (execute host plan deadline tracker world).1 = .ok outcome →
    outcome.results[k]? = some result → result.isError = true →
    ∃ tool arguments returned, (invocations host plan deadline tracker world)[k]?
        = some ⟨tool, arguments, .ok returned⟩ ∧
      returned.isError = true ∧ result = .ofCall k tool returned result.duration

/-- If what the tools return has all that their output schemas declare, no reference of an accepted
plan is without a value in a run. -/
theorem execute_resolves {σ ω : Type} {host : Host σ} {plan : ToolCalls}
    {deadline : Option Deadline} {tracker : Option (Tracker ω)} {world : σ} {registry : Registry}
    (accepted : validate plan registry = .ok ())
    (complete : Execution.Returns registry Schema.CompleteOutput
      (invocations host plan deadline tracker world)) :
    RunResolves host plan deadline tracker world := by
  have accepted := Validation.accepted_of_validate accepted
  refine ⟨?_, fun k call => Execution.invoked_or_cutOff accepted complete, ?_⟩
  · intro k call state called comes
    obtain ⟨log, answered, grows⟩ := comes.answered
    exact Execution.resolved_of_answered accepted answered (complete.of_prefix grows) called
  · intro outcome k result ran hresult isError
    have concluded := Execution.execute_concluded ran
    exact Execution.returned_of_error accepted concluded complete hresult isError

theorem execute_resolves_refused :
    validate (Sample.plan "$0.output.total") Sample.registry = .ok () ∧
      Execution.Returns Sample.registry Schema.CompleteOutput Sample.log ∧
      RunResolves Sample.host (Sample.plan "$0.output.total") none
        (none : Option (Tracker Unit)) () := by
  have accepted : validate (Sample.plan "$0.output.total") Sample.registry = .ok () := by rfl
  have complete := Sample.returns Sample.completeOutput
  exact ⟨accepted, complete, execute_resolves accepted complete⟩

/-! ### Types of arguments -/

/-- What a tool is handed where the arguments of its call have a text that was meant as a reference:
a value that conforms to the schema of the field that the text names, and is of one of the types that
the argument expects. -/
inductive Handed (typing : Json → String → Prop) (registry : Registry) (plan : ToolCalls)
    (call : PlannedCall) (arguments : Members) (place : Location) (text : String) : Prop where
  | intro {reference : Reference} {source : PlannedCall} {schema : ToolSchema}
      {field value : Json} (parsed : Reference.parse text = .ok (some reference))
      (called : plan.calls[reference.source]? = some source)
      (known : registry.lookup source.tool = some schema)
      (declared : Schema.field (.obj schema.output) reference.path = .found field)
      (handed : (Json.obj arguments).at? place = some value)
      (conforms : Schema.Conforms typing field value)
      (expected : ∀ input found wanted, registry.lookup call.tool = some input →
        TypeSet.ofDeclared? (field.get? "type") = .ok (some found) →
        Schema.typeAt (.obj input.input) place = .ok (some wanted) →
        ∃ word ∈ wanted, typing value word) :
      Handed typing registry plan call arguments place text

theorem Sample.conformingOutput :
    Schema.ConformingOutput (fun value word => Schema.isOfType value word = true)
      (.obj list.output) noRows := by
  have rows : Schema.properties (.obj list.output) = listed := by rfl
  have leaf : ∀ {type value}, Schema.isOfType value type = true →
      Schema.Conforms (fun value word => Schema.isOfType value word = true) (typed type) value := by
    intro type value h
    apply Schema.Conforms.of_members
    · intro declared hdeclared
      cases hdeclared
      exact ⟨type, List.mem_singleton.2 rfl, h⟩
    · intro props hprops
      cases hprops
    · intro member hmember
      cases hmember
  refine ⟨.of_members (fun declared h => nomatch h) ?_ ?_, fun declared => nomatch declared⟩
  · intro props hprops
    cases hprops
    refine ⟨_, rfl, fun key => ?_⟩
    by_cases hrows : key = "rows" <;> by_cases htotal : key = "total" <;>
      simp [listed, Members.contains, Members.get?_cons, hrows, htotal]
  · simp only [rows, listed, List.forall_mem_cons]
    refine ⟨?_, ?_, by simp⟩ <;>
    · intro field hfield
      cases hfield
      exact leaf rfl

/-- If what the tools return conforms to their output schemas, what they are handed in place of the
references of an accepted plan conforms to the schemas that validation looked at. -/
theorem execute_conforms {σ ω : Type} {host : Host σ} {plan : ToolCalls}
    {deadline : Option Deadline} {tracker : Option (Tracker ω)} {world : σ} {registry : Registry}
    {typing : Json → String → Prop} (accepted : validate plan registry = .ok ())
    (conforming : Execution.Returns registry (Schema.ConformingOutput typing)
      (invocations host plan deadline tracker world))
    {k : Nat} {call : PlannedCall} {invocation : Invocation}
    (called : plan.calls[k]? = some call)
    (invoked : (invocations host plan deadline tracker world)[k]? = some invocation)
    {place : Location} {text : String}
    (stands : (Json.obj call.arguments).at? place = some (.str text))
    (meant : Reference.looksLike text = true) :
    invocation.tool = call.tool ∧
      Handed typing registry plan call invocation.arguments place text := by
  have accepted := Validation.accepted_of_validate accepted
  obtain ⟨own, known, admissible⟩ := accepted k call called
  obtain ⟨call', log, results, called', before, answered, htool, resolved⟩ :=
    Execution.answered_of_invoked invoked
  obtain rfl := Option.some.inj (called.symm.trans called')
  have rebuilt : (Json.obj call.arguments).mapLeavesM
      (fun _ text => Reference.resolveText results text) = .ok (.obj invocation.arguments) := by
    rw [Json.mapLeavesM]
    exact map_eq_ok_iff.2 ⟨_, resolved, rfl⟩
  obtain ⟨value, hvalue, handed⟩ := Json.at?_mapLeavesM rebuilt stands
  have admissible := admissible place text (Json.mem_leaves_of_at? stands) meant
  refine ⟨htool, ?_⟩
  cases Execution.refers_of_admissible accepted answered (conforming.of_prefix before)
      admissible with
  | intro parsed source known' declared agree related resolves =>
      obtain ⟨value', hvalue', conforms⟩ := Schema.field?_of_conforming related declared
      obtain rfl := Except.ok.inj (hvalue.symm.trans (resolves value' hvalue'))
      refine .intro parsed source known' declared handed conforms ?_
      intro input found wanted hinput hfound hwanted
      obtain rfl := Option.some.inj (known.symm.trans hinput)
      obtain ⟨types, types', htypes, htypes', agree⟩ := agree
      obtain rfl := Except.ok.inj (htypes.symm.trans hfound)
      obtain rfl := Except.ok.inj (htypes'.symm.trans hwanted)
      have same : found.Same wanted := Classical.byContradiction fun differ =>
        agree ⟨found, wanted, rfl, rfl, differ⟩
      cases conforms with
      | intro types object inside =>
          obtain ⟨word, hword, typed⟩ := types found hfound
          exact ⟨word, (same word).1 hword, typed⟩

theorem execute_conforms_refused :
    validate (Sample.plan "$0.output.total") Sample.registry = .ok () ∧
      Sample.log[1]? = some ⟨"page", [("size", .int 0)], .ok (.error "no such page")⟩ ∧
      Handed (fun value word => Schema.isOfType value word = true) Sample.registry
        (Sample.plan "$0.output.total") ⟨"page", [("size", .str "$0.output.total")]⟩
        [("size", .int 0)] [.key "size"] "$0.output.total" := by
  have accepted : validate (Sample.plan "$0.output.total") Sample.registry = .ok () := by rfl
  have conforming := Sample.returns Sample.conformingOutput
  have asked : Sample.log[1]?
      = some ⟨"page", [("size", .int 0)], .ok (.error "no such page")⟩ := by rfl
  exact ⟨accepted, asked, (execute_conforms accepted conforming rfl asked rfl (by decide)).2⟩

end CallPlan
