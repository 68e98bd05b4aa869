import CallPlan.Proofs.Execution.Sightings

/-!
# CallPlan.Proofs.Execution.Transparency

Whether and by whom a run is watched makes no difference to it.

* Trackers are compared by what they record (`Tracker.SameSteps`), whoever is told of it; telling
  leaves this as it is, and so does every report of a run.
* `Execution.Follows` relates the tracker of a run to that of another one, which has the same steps
  or is none. `Execution.Together` says what a part of the two runs comes to: the same, unless the
  first run ends there for want of a date and the second one has no tracker. One lemma for each
  function of a run shows this, up to `runFrom_together`.
* `execute_transparent` puts this together for the observers of one task, and for no tracker at all.
-/

namespace CallPlan

variable {σ ω ω' : Type}

/-! ### Trackers that record the same -/

namespace Tracker

/-- Two trackers record the same steps of the same task. -/
structure SameSteps (tracker : Tracker ω) (other : Tracker ω') : Prop where
  task : tracker.task = other.task
  ids : tracker.ids = other.ids
  steps : tracker.steps = other.steps

variable {tracker : Tracker ω} {other : Tracker ω'}

theorem sameSteps_emit (tracker : Tracker ω) (position : Nat) (step : Step) :
    (tracker.emit position step).SameSteps tracker := by
  unfold emit
  split <;> exact ⟨rfl, rfl, rfl⟩

namespace SameSteps

theorem emit (h : tracker.SameSteps other) (position : Nat) (step : Step) :
    (tracker.emit position step).SameSteps (other.emit position step) := by
  have left := sameSteps_emit tracker position step
  have right := sameSteps_emit other position step
  exact ⟨left.task.trans (h.task.trans right.task.symm),
    left.ids.trans (h.ids.trans right.ids.symm), left.steps.trans (h.steps.trans right.steps.symm)⟩

theorem lastPosition_eq (h : tracker.SameSteps other) :
    tracker.lastPosition = other.lastPosition := by
  rw [lastPosition, lastPosition, h.steps]

theorem start (h : tracker.SameSteps other) (kind : StepKind) (content : StepContent)
    (now : DateTime) : (tracker.start kind content now).SameSteps (other.start kind content now) := by
  unfold Tracker.start
  rw [h.task, h.ids, h.steps]
  refine emit ?_ _ _
  exact ⟨rfl, rfl, rfl⟩

theorem update (h : tracker.SameSteps other) (position : Nat) (change : Step → Step) :
    (tracker.update position change).SameSteps (other.update position change) := by
  unfold Tracker.update
  rw [h.steps]
  cases other.steps[position]? with
  | none => exact h
  | some step =>
      refine emit ?_ _ _
      exact ⟨h.task, h.ids, rfl⟩

/-- The step that was added last changes in the same way. -/
theorem updateLast (h : tracker.SameSteps other) (change : Step → Step) :
    (tracker.update tracker.lastPosition change).SameSteps
      (other.update other.lastPosition change) := by
  rw [h.lastPosition_eq]
  exact h.update _ change

theorem endUndatedLast (h : tracker.SameSteps other) (status : StepStatus) :
    (tracker.endUndated tracker.lastPosition status).SameSteps
      (other.endUndated other.lastPosition status) := by
  unfold endUndated
  rw [h.lastPosition_eq, h.steps]
  exact ⟨h.task, h.ids, rfl⟩

theorem reportResult (h : tracker.SameSteps other) (result : ExecutionResult)
    (message : Option String) (now : DateTime) :
    (Execution.reportResult result message now tracker).SameSteps
      (Execution.reportResult result message now other) := by
  unfold Execution.reportResult
  cases result.isError with
  | true => exact h.updateLast _
  | false =>
      simp only [Bool.false_eq_true, if_false]
      have completed := h.updateLast (·.complete result.structured now)
      cases Wrapped.skillId? result.structured with
      | none => exact completed
      | some skill =>
          dsimp only
          split
          · exact completed
          · exact completed.start _ _ _

end SameSteps

end Tracker

namespace Execution

/-! ### Two runs side by side -/

/-- The tracker of a run and that of another one that follows it: one that records the same, or, if
the second run is not tracked, none. -/
inductive Follows : Bool → Option (Tracker ω) → Option (Tracker ω') → Prop where
  | tracked {tracker : Tracker ω} {other : Tracker ω'} (same : tracker.SameSteps other) :
      Follows true (some tracker) (some other)
  | untracked {tracker : Tracker ω} : Follows false (some tracker) none

/-- What two runs come to, the second of which follows the first: both do the same, unless the first
one ends for want of a date where the second one needs none. -/
inductive Together (host : Host σ) (tracked : Bool) :
    Option RunEnd × RunState σ ω → Option RunEnd × RunState σ ω' → Prop where
  | same {ending : Option RunEnd} {world : σ} {results : List ExecutionResult}
      {tracker : Option (Tracker ω)} {other : Option (Tracker ω')}
      (follows : Follows tracked tracker other) :
      Together host tracked (ending, ⟨world, tracker, results⟩) (ending, ⟨world, other, results⟩)
  | undated {failure : Failure} {state : RunState σ ω} {other : Option RunEnd × RunState σ ω'}
      (second : tracked = false) (undated : host.now state.world = .error failure) :
      Together host tracked (some (.failed failure), state) other

section
variable {host : Host σ} {deadline : Option Deadline} {tracked : Bool} {world : σ}
  {results : List ExecutionResult} {tracker : Option (Tracker ω)} {other : Option (Tracker ω')}

theorem unresolvable_together (follows : Follows tracked tracker other) (index : Nat)
    (call : PlannedCall) (message : String) :
    Together host tracked
      (some (unresolvable host index call message ⟨world, tracker, results⟩).1,
        (unresolvable host index call message ⟨world, tracker, results⟩).2)
      (some (unresolvable host index call message ⟨world, other, results⟩).1,
        (unresolvable host index call message ⟨world, other, results⟩).2) := by
  unfold unresolvable
  cases dated : host.now world with
  | ok now =>
      cases follows with
      | tracked same => exact .same (.tracked ((same.start _ _ now).updateLast _))
      | untracked => exact .same .untracked
  | error failure =>
      cases follows with
      | tracked same => exact .same (.tracked same)
      | untracked => exact .undated rfl dated

theorem settle_together (follows : Follows tracked tracker other) (index : Nat) (tool : String)
    (started : Int) (returned : Except Failure CallResult) :
    Together host tracked (settle host index tool started returned ⟨world, tracker, results⟩)
      (settle host index tool started returned ⟨world, other, results⟩) := by
  unfold settle
  cases returned with
  | error failure =>
      cases dated : host.now world with
      | ok now =>
          cases follows with
          | tracked same => exact .same (.tracked (same.updateLast _))
          | untracked => exact .same .untracked
      | error failure =>
          cases follows with
          | tracked same => exact .same (.tracked (same.endUndatedLast _))
          | untracked => exact .undated rfl dated
  | ok returned =>
      dsimp only
      split
      · -- nothing is said of the error, whether there is a tracker or not
        exact .same follows
      · next message said =>
          cases dated : host.now world with
          | ok now =>
              cases follows with
              | tracked same => exact .same (.tracked (same.reportResult _ message now))
              | untracked => exact .same .untracked
          | error failure =>
              cases follows with
              | tracked same => exact .same (.tracked (same.endUndatedLast _))
              | untracked => exact .undated rfl dated

theorem invokeCall_together (follows : Follows tracked tracker other) (index : Nat) (tool : String)
    (arguments : Members) :
    Together host tracked (invokeCall host index tool arguments ⟨world, tracker, results⟩)
      (invokeCall host index tool arguments ⟨world, other, results⟩) := by
  unfold invokeCall
  cases dated : host.now world with
  | ok now =>
      cases follows with
      | tracked same => exact settle_together (.tracked (same.start _ _ now)) index tool _ _
      | untracked => exact settle_together .untracked index tool _ _
  | error failure =>
      cases follows with
      | tracked same => exact .same (.tracked same)
      | untracked => exact .undated rfl dated

theorem runCall_together (follows : Follows tracked tracker other) (index : Nat)
    (call : PlannedCall) :
    Together host tracked (runCall host deadline index call ⟨world, tracker, results⟩)
      (runCall host deadline index call ⟨world, other, results⟩) := by
  unfold runCall
  dsimp only
  by_cases stop : stopped host deadline world = true
  · rw [if_pos stop, if_pos stop]
    exact .same follows
  · rw [if_neg stop, if_neg stop]
    cases substituteArguments call.arguments results with
    | ok arguments => exact invokeCall_together follows index call.tool arguments
    | error cause =>
        cases cause with
        | longIndex long => exact .same follows
        | noResult reference count => exact unresolvable_together follows index call _
        | noField reference tool => exact unresolvable_together follows index call _

/-- A run and one that follows it come to the same, call by call. -/
theorem runFrom_together (follows : Follows tracked tracker other) (index : Nat)
    (calls : List PlannedCall) :
    Together host tracked
      (some (runFrom host deadline index calls ⟨world, tracker, results⟩).1,
        (runFrom host deadline index calls ⟨world, tracker, results⟩).2)
      (some (runFrom host deadline index calls ⟨world, other, results⟩).1,
        (runFrom host deadline index calls ⟨world, other, results⟩).2) := by
  induction calls generalizing index world tracker other results with
  | nil => exact .same follows
  | cons call rest ih =>
      have step : Together host tracked
          (runCall host deadline index call ⟨world, tracker, results⟩)
          (runCall host deadline index call ⟨world, other, results⟩) :=
        runCall_together follows index call
      rw [runFrom, runFrom]
      generalize runCall host deadline index call ⟨world, tracker, results⟩ = first at step ⊢
      generalize runCall host deadline index call ⟨world, other, results⟩ = second at step ⊢
      cases step with
      | @same ending world results tracker other follows' =>
          cases ending with
          | some ending => exact .same follows'
          | none => exact ih follows' (index + 1)
      | undated second undated => exact .undated second undated

end

/-- A run ended because its host showed no date for a step. -/
def EndsUndated (host : Host σ) (returned : Except Failure Outcome) (final : σ) : Prop :=
  ∃ failure, returned = .error failure ∧ host.now final = .error failure

/-- No run ends so on a host that always shows a date. -/
theorem not_endsUndated {host : Host σ} (dates : host.Dates) (returned : Except Failure Outcome)
    (final : σ) : ¬ EndsUndated host returned final := by
  rintro ⟨failure, -, undated⟩
  obtain ⟨now, dated⟩ := dates final
  cases dated.symm.trans undated

/-- What a run returns, the world it leaves behind and its tracker at the end, and what it asked of
the tool runtime. -/
structure Gives (host : Host σ) (plan : ToolCalls) (deadline : Option Deadline)
    (tracker : Option (Tracker ω)) (world : σ) (returned : Except Failure Outcome) (final : σ)
    (log : List Invocation) (after : Option (Tracker ω)) : Prop where
  run : execute host plan deadline tracker world = (returned, final, after)
  asked : invocations host plan deadline tracker world = log

/-- A run and one that follows it give the same. -/
theorem gives_together {host : Host σ} {tracked : Bool} {tracker : Option (Tracker ω)}
    {other : Option (Tracker ω')} (follows : Follows tracked tracker other) (plan : ToolCalls)
    (deadline : Option Deadline) (world : σ) :
    ∃ returned final log after, Gives host plan deadline tracker world returned final log after ∧
      ((∃ after', Gives host plan deadline other world returned final log after' ∧
          Follows tracked after after') ∨
        tracked = false ∧ EndsUndated host returned final) := by
  have gives : ∀ {ω : Type} (tracker : Option (Tracker ω)) (ending : RunEnd)
      (state : RunState (σ × List Invocation) ω),
      runFrom host.logged deadline 0 plan.calls ⟨(world, []), tracker, []⟩ = (ending, state) →
      Gives host plan deadline tracker world (outcome ending state.results) state.world.1
        state.world.2 state.tracker := by
    intro ω tracker ending state run
    have logged : execute host.logged plan deadline tracker (world, [])
        = (outcome ending state.results, state.world, state.tracker) := by
      rw [execute, run]
    exact ⟨by rw [execute_logged host plan deadline tracker world [], logged],
      by rw [invocations, logged]⟩
  cases run : runFrom host.logged deadline 0 plan.calls ⟨(world, []), tracker, []⟩ with
  | mk ending state =>
      cases run' : runFrom host.logged deadline 0 plan.calls ⟨(world, []), other, []⟩ with
      | mk ending' state' =>
          have together : Together host.logged tracked
              (some (runFrom host.logged deadline 0 plan.calls ⟨(world, []), tracker, []⟩).1,
                (runFrom host.logged deadline 0 plan.calls ⟨(world, []), tracker, []⟩).2)
              (some (runFrom host.logged deadline 0 plan.calls ⟨(world, []), other, []⟩).1,
                (runFrom host.logged deadline 0 plan.calls ⟨(world, []), other, []⟩).2) :=
            runFrom_together follows 0 plan.calls
          rw [run, run'] at together
          refine ⟨_, _, _, _, gives tracker ending state run, ?_⟩
          cases together with
          | same follows' => exact .inl ⟨_, gives other _ _ run', follows'⟩
          | undated second undated => exact .inr ⟨second, _, rfl, undated⟩

end Execution

/-! ### The observers of one task -/

/-- An observer that fails whatever it is told. -/
def Observer.raising : Observer Unit := fun _ _ seen => (seen, .error "cannot be reached")

/-- A run is the same whoever observes its task and whatever they make of it, also if they fail at
every step: it has the same outcome or fails in the same way, it asks the same of the tool runtime,
and the same steps are recorded. Without a tracker it is the same as well. Only a clock that shows no
date could make a difference, since an untracked run never asks for one. -/
theorem execute_transparent (host : Host σ) (plan : ToolCalls) (deadline : Option Deadline)
    (task : String) (ids : Nat → String) (world : σ) :
    ∃ returned final log steps,
      (∀ {ω : Type} (observer : Option (Observer ω)) (seen : ω), ∃ after : Tracker ω,
        Execution.Gives host plan deadline (some (.fresh task ids observer seen)) world
          returned final log (some after) ∧ after.steps = steps) ∧
      (¬ Execution.EndsUndated host returned final →
        Execution.Gives host plan deadline (none : Option (Tracker Unit)) world
          returned final log none) := by
  have unwatched : Execution.Follows false
      (some (Tracker.fresh task ids (none : Option (Observer Unit)) ()))
      (none : Option (Tracker Unit)) := .untracked
  -- all runs are compared to the one that is tracked without an observer
  obtain ⟨returned, final, log, after, silent, untracked⟩ :=
    Execution.gives_together unwatched plan deadline world
  have tracked : ∀ {ω : Type} (observer : Option (Observer ω)) (seen : ω), ∃ after',
      Execution.Gives host plan deadline (some (.fresh task ids observer seen)) world
        returned final log after' ∧ Execution.Follows true after after' := by
    intro ω observer seen
    have watched : Execution.Follows true
        (some (Tracker.fresh task ids (none : Option (Observer Unit)) ()))
        (some (Tracker.fresh task ids observer seen)) := .tracked ⟨rfl, rfl, rfl⟩
    obtain ⟨returned', final', log', after', silent', ⟨other, gives, follows⟩ | ⟨second, -⟩⟩ :=
      Execution.gives_together watched plan deadline world
    · cases silent.run.symm.trans silent'.run
      obtain rfl := silent.asked.symm.trans silent'.asked
      exact ⟨other, gives, follows⟩
    · cases second
  refine ⟨returned, final, log, (after.map (·.steps)).getD [], ?_, ?_⟩
  · intro ω observer seen
    obtain ⟨after', gives, follows⟩ := tracked observer seen
    cases follows with
    | tracked same => exact ⟨_, gives, same.steps.symm⟩
  · intro dated
    rcases untracked with ⟨other, gives, follows⟩ | ⟨-, undated⟩
    · cases follows with
      | untracked => exact gives
    · exact absurd undated dated

/-- With an observer that fails at every step, one that sees all of them, or none, and without a
tracker, the run fails as the tool runtime does, after the same two invocations. -/
theorem execute_transparent_unreachable :
    ∃ returned log steps, returned = .error (.toolRuntime "unreachable") ∧ log.length = 2 ∧
      steps.length = 2 ∧
      (∀ {ω : Type} (observer : Option (Observer ω)) (seen : ω), ∃ after : Tracker ω,
        Execution.Gives Sample.brittleHost (Sample.plan "all") none
          (some (.fresh "task" (fun _ => "step") observer seen)) () returned () log (some after) ∧
        after.steps = steps) ∧
      Execution.Gives Sample.brittleHost (Sample.plan "all") none (none : Option (Tracker Unit)) ()
        returned () log none := by
  obtain ⟨returned, final, log, steps, watched, unwatched⟩ :=
    execute_transparent Sample.brittleHost (Sample.plan "all") none "task" (fun _ => "step") ()
  have dated := Execution.not_endsUndated Sample.dates_brittleHost returned final
  obtain ⟨after, raised, recorded⟩ := watched (some .raising) ()
  refine ⟨returned, log, steps, ?_, ?_, ?_, watched, unwatched dated⟩
  · exact (congrArg Prod.fst raised.run).symm
  · exact (congrArg List.length raised.asked).symm
  · have two := congrArg (fun run => run.2.2.map (·.steps.length)) raised.run
    rw [← recorded]
    exact (Option.some.inj two).symm

end CallPlan
