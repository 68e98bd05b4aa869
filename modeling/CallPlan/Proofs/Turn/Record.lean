import CallPlan.Proofs.Turn.Events
import CallPlan.Proofs.Execution.Trace
import CallPlan.Proofs.Execution.Outcome

/-!
# CallPlan.Proofs.Turn.Record

What a turn that returns has done.

* `Turn.Followed` lists the ways in which a turn can return once there is a plan: with a direct
  answer, with an explanation of a violation, or with an account of a run. `followed_of_follow` is
  the only place where the definition of a turn is opened for this.
* `turn_record` draws from this, with the log of the turn and the trace of the run, who was asked
  for what and how often, what the result says of it, and which steps were reported.
-/

namespace CallPlan

variable {σ ω : Type}

namespace Turn

/-! ### The ways to return -/

/-- The ways in which a turn for which a plan has been made can return: the result, and the world and
the tracker afterwards. -/
inductive Followed (who : Collaborators σ) (request : Json) (deadline : Option Deadline)
    (tracker : Tracker ω) (world : σ) : Plan → TurnResult → σ → Tracker ω → Prop where
  /-- The plan is the answer. -/
  | direct {content : String} {now : DateTime} {reported : Tracker ω}
      (reports : reported =
        (tracker.planning "Direct response - no tools needed" none now).completion now) :
      Followed who request deadline tracker world (.direct content)
        ⟨content, .direct content, none, none, 1, reported.steps⟩ world reported
  /-- The plan is not accepted, and the violation is explained. -/
  | explained {calls : ToolCalls} {v : Violation} {reply : String} {now now' : DateTime}
      {after : σ} {reported : Tracker ω}
      (refused : validate calls who.registry = .error (.violation v))
      (responds : who.responder.respond request (.str v.failureText) world = (.ok reply, after))
      (reports : reported =
        (tracker.planning calls.reasoning (some calls.calls) now).completion now') :
      Followed who request deadline tracker world (.tools calls)
        ⟨reply, .tools calls, some v, none, 2, reported.steps⟩ after reported
  /-- The plan is run, and the outcome is accounted for. -/
  | carriedOut {calls : ToolCalls} {outcome : Outcome} {account reply : String}
      {now now' : DateTime} {between after : σ} {ran reported : Tracker ω}
      (accepted : validate calls who.registry = .ok ())
      (runs : execute who.host calls deadline
        (some (tracker.planning calls.reasoning (some calls.calls) now)) world
          = (.ok outcome, between, some ran))
      (told : Summary.text calls outcome = .ok account)
      (responds : who.responder.respond request (.str account) between = (.ok reply, after))
      (reports : reported = ran.completion now') :
      Followed who request deadline tracker world (.tools calls)
        ⟨reply, .tools calls, none, some outcome, 2, reported.steps⟩ after reported

section
variable {who : Collaborators σ} {request : Json} {deadline : Option Deadline}
  {tracker tracker' : Tracker ω} {world world' : σ} {turn : TurnResult}

theorem dated_eq_ok {α : Type} {result : α}
    {next : DateTime → Except Failure α × σ × Tracker ω}
    (h : dated who tracker world next = (.ok result, world', tracker')) :
    ∃ now, who.host.now world = .ok now ∧ next now = (.ok result, world', tracker') := by
  unfold dated at h
  cases now_eq : who.host.now world with
  | ok now =>
      rw [now_eq] at h
      exact ⟨now, rfl, h⟩
  | error failure =>
      rw [now_eq] at h
      cases h

theorem explained_of_explain {calls : ToolCalls} {v : Violation}
    {now : DateTime} (refused : validate calls who.registry = .error (.violation v))
    (h : explain who request calls v (tracker.planning calls.reasoning (some calls.calls) now) world
      = (.ok turn, world', tracker')) :
    Followed who request deadline tracker world (.tools calls) turn world' tracker' := by
  unfold explain at h
  cases responds : who.responder.respond request (.str v.failureText) world with
  | mk returned after =>
      rw [responds] at h
      cases returned with
      | error failure => cases h
      | ok reply =>
          obtain ⟨now', -, e⟩ := dated_eq_ok h
          cases e
          exact .explained refused responds rfl

theorem carriedOut_of_carryOut {calls : ToolCalls} {now : DateTime}
    (accepted : validate calls who.registry = .ok ())
    (h : carryOut who request calls deadline
      (tracker.planning calls.reasoning (some calls.calls) now) world
        = (.ok turn, world', tracker')) :
    Followed who request deadline tracker world (.tools calls) turn world' tracker' := by
  unfold carryOut at h
  obtain ⟨ending, traced, runs, -⟩ := Execution.execute_trace who.host calls deadline
    (tracker.planning calls.reasoning (some calls.calls) now) world
  rw [runs] at h
  cases ended : Execution.outcome ending traced.results with
  | error failure =>
      rw [ended] at h
      cases h
  | ok outcome =>
      rw [ended] at h runs
      obtain ⟨now', -, e⟩ := dated_eq_ok h
      dsimp only at e
      cases told : Summary.text calls outcome with
      | error long =>
          rw [told] at e
          cases e
      | ok account =>
          rw [told] at e
          dsimp only at e
          cases responds : who.responder.respond request (.str account) traced.world with
          | mk returned after =>
              rw [responds] at e
              cases returned with
              | error failure => cases e
              | ok reply =>
                  cases e
                  exact .carriedOut accepted runs told responds rfl

theorem followed_of_follow {plan : Plan}
    (h : follow who request plan deadline tracker world = (.ok turn, world', tracker')) :
    Followed who request deadline tracker world plan turn world' tracker' := by
  obtain ⟨now, -, h⟩ := dated_eq_ok h
  cases plan with
  | direct content =>
      cases h
      exact .direct rfl
  | tools calls =>
      dsimp only at h
      cases valid : validate calls who.registry with
      | ok _ =>
          rw [valid] at h
          exact carriedOut_of_carryOut valid h
      | error rejection =>
          rw [valid] at h
          cases rejection with
          | violation v => exact explained_of_explain valid h
          | unchecked cause => cases h

/-- A turn that returns was given a plan, which was followed. -/
theorem exists_followed {timeout : Json}
    (h : runTurn who request timeout tracker world = (.ok turn, world', tracker')) :
    ∃ deadline now plan between,
      Deadline.after timeout (who.host.clock world) = .ok deadline ∧
      who.host.now world = .ok now ∧
      who.planner.plan request who.registry world = (.ok plan, between) ∧
      Followed who request deadline (tracker.understanding now) between plan turn world' tracker' := by
  unfold runTurn at h
  cases timed : Deadline.after timeout (who.host.clock world) with
  | error failure =>
      rw [timed] at h
      cases h
  | ok deadline =>
      rw [timed] at h
      obtain ⟨now, dated, h⟩ := dated_eq_ok h
      cases plans : who.planner.plan request who.registry world with
      | mk returned between =>
          rw [plans] at h
          cases returned with
          | error failure => cases h
          | ok plan => exact ⟨deadline, now, plan, between, rfl, dated, rfl, followed_of_follow h⟩

/-- Where a plan is made in time, it is followed. -/
theorem runTurn_of_plan {timeout : Json} {now : DateTime} {plan : Plan} {between : σ}
    (timed : Deadline.after timeout (who.host.clock world) = .ok deadline)
    (dated : who.host.now world = .ok now)
    (plans : who.planner.plan request who.registry world = (.ok plan, between)) :
    runTurn who request timeout tracker world
      = follow who request plan deadline (tracker.understanding now) between := by
  unfold runTurn Turn.dated
  rw [timed, dated]
  dsimp only
  rw [plans]

theorem Followed.plan_eq {plan : Plan}
    (h : Followed who request deadline tracker world plan turn world' tracker') :
    turn.plan = plan := by
  cases h <;> rfl

/-- The steps of a turn that returns. -/
theorem Followed.gained {plan : Plan}
    (h : Followed who request deadline tracker world plan turn world' tracker') :
    tracker.Gained tracker' (.planning ::
      (((turn.outcome.map (·.results)).getD []).flatMap ExecutionResult.stepKinds ++
        [.completion])) ∧
    turn.steps = tracker'.steps := by
  cases h with
  | direct reports =>
      subst reports
      exact ⟨(Tracker.gained_start _ rfl _ _).trans (Tracker.gained_start _ rfl _ _), rfl⟩
  | explained refused responds reports =>
      subst reports
      exact ⟨(Tracker.gained_start _ rfl _ _).trans (Tracker.gained_start _ rfl _ _), rfl⟩
  | carriedOut accepted runs told responds reports =>
      subst reports
      exact ⟨(Tracker.gained_start _ rfl _ _).trans
        ((gained_of_execute runs).trans (Tracker.gained_start _ rfl _ _)), rfl⟩

end

/-! ### Who was asked -/

/-- What is asked in a turn that returns, in order, and what the result says of it. The deadline and
the world are those in which the plan is followed. -/
inductive Course (who : Collaborators σ) (request : Json) (deadline : Option Deadline) (world : σ) :
    List TurnEvent → TurnResult → Prop where
  | direct {content : String} {steps : List Step} :
      Course who request deadline world [.planned request who.registry (.ok (.direct content))]
        ⟨content, .direct content, none, none, 1, steps⟩
  | explained {calls : ToolCalls} {v : Violation} {reply : String} {steps : List Step}
      (refused : validate calls who.registry = .error (.violation v))
      (responds : (who.responder.respond request (.str v.failureText) world).1 = .ok reply) :
      Course who request deadline world
        [.planned request who.registry (.ok (.tools calls)),
          .responded request (.str v.failureText) (.ok reply)]
        ⟨reply, .tools calls, some v, none, 2, steps⟩
  | carriedOut {ω : Type} {calls : ToolCalls} {tracker : Tracker ω} {outcome : Outcome}
      {account reply : String} {steps : List Step}
      (accepted : validate calls who.registry = .ok ())
      (ran : (execute who.host calls deadline (some tracker) world).1 = .ok outcome)
      (told : Summary.text calls outcome = .ok account)
      (responds : (who.responder.respond request (.str account)
        (execute who.host calls deadline (some tracker) world).2.1).1 = .ok reply) :
      Course who request deadline world
        (.planned request who.registry (.ok (.tools calls)) ::
          ((invocations who.host calls deadline (some tracker) world).map .invoked ++
            [.responded request (.str account) (.ok reply)]))
        ⟨reply, .tools calls, none, some outcome, 2, steps⟩

theorem events_of_plan {who : Collaborators σ} {request : Json} {registry : Registry}
    {returned : Except Failure Plan} {before after : σ × List TurnEvent}
    (h : who.logged.planner.plan request registry before = (returned, after)) :
    who.planner.plan request registry before.1 = (returned, after.1) ∧
      after.2 = before.2 ++ [.planned request registry returned] := by
  cases h
  exact ⟨rfl, rfl⟩

theorem events_of_respond {who : Collaborators σ} {request account : Json}
    {returned : Except Failure String} {before after : σ × List TurnEvent}
    (h : who.logged.responder.respond request account before = (returned, after)) :
    (who.responder.respond request account before.1).1 = returned ∧
      after.2 = before.2 ++ [.responded request account returned] := by
  cases h
  exact ⟨rfl, rfl⟩

/-- The log of a turn that returns. -/
theorem Followed.course {who : Collaborators σ} {request : Json} {deadline : Option Deadline}
    {tracker tracker' : Tracker ω} {world : σ} {after : σ × List TurnEvent} {turn : TurnResult}
    {plan : Plan}
    (h : Followed who.logged request deadline tracker
      (world, [.planned request who.registry (.ok plan)]) plan turn after tracker') :
    Course who request deadline world after.2 turn := by
  cases h with
  | direct reports => exact .direct
  | explained refused responds reports =>
      obtain ⟨responds, events⟩ := events_of_respond responds
      rw [events]
      exact .explained refused responds
  | @carriedOut calls outcome account reply now now' between after ran reported accepted runs told
      responds =>
      have noted := execute_noting who.host calls deadline
        (some (tracker.planning calls.reasoning (some calls.calls) now)) world
        [.planned request who.registry (.ok (.tools calls))]
      obtain ⟨ran, rest⟩ := Prod.mk.inj (noted.symm.trans runs)
      obtain ⟨rfl, -⟩ := Prod.mk.inj rest
      obtain ⟨responds, events⟩ := events_of_respond responds
      rw [events, List.append_assoc]
      exact .carriedOut accepted ran told responds

end Turn

/-- What a turn that returns has done: who was asked, what the result says of it, and what was
reported. -/
structure TurnRecord (who : Collaborators σ) (request timeout : Json) (world : σ)
    (events : List TurnEvent) (turn : TurnResult) : Prop where
  /-- All that was asked, in order, with the texts that were given to the responder. -/
  course : ∃ deadline between, Deadline.after timeout (who.host.clock world) = .ok deadline ∧
    who.planner.plan request who.registry world = (.ok turn.plan, between) ∧
    Turn.Course who request deadline between events turn
  plannedOnce : events.countP (·.isPlanned) = 1
  /-- A direct answer is the reply, and nothing more is asked. -/
  direct : ∀ content, turn.plan = .direct content →
    events.countP (·.isResponded) = 0 ∧ events.countP (·.isInvoked) = 0 ∧ turn.modelCalls = 1 ∧
      turn.reply = content ∧ turn.violation = none ∧ turn.outcome = none
  /-- After a plan that calls tools the responder is asked once, about a violation or about an
  outcome. -/
  tools : ∀ calls, turn.plan = .tools calls →
    events.countP (·.isResponded) = 1 ∧ turn.modelCalls = 2 ∧
      turn.violation.isSome = !turn.outcome.isSome
  /-- Tools are only run for a plan that was accepted. -/
  accepted : ∀ event ∈ events, event.isInvoked = true →
    ∃ calls, turn.plan = .tools calls ∧ validate calls who.registry = .ok ()
  /-- The steps are those of the turn around those of its results. -/
  kinds : turn.steps.map (·.kind) = [.understanding, .planning] ++
    ((turn.outcome.map (·.results)).getD []).flatMap ExecutionResult.stepKinds ++ [.completion]
  ended : ∀ step ∈ turn.steps, step.HasEnded

namespace Turn

section
variable {who : Collaborators σ} {request : Json} {deadline : Option Deadline} {world : σ}
  {events : List TurnEvent} {turn : TurnResult}

theorem countP_invoked (p : TurnEvent → Bool) (none : ∀ invocation, p (.invoked invocation) = false)
    (log : List Invocation) : (log.map TurnEvent.invoked).countP p = 0 := by
  rw [List.countP_eq_zero]
  intro event hevent
  obtain ⟨invocation, -, rfl⟩ := List.mem_map.1 hevent
  rw [none]
  exact Bool.false_ne_true

theorem Course.plannedOnce (h : Course who request deadline world events turn) :
    events.countP (·.isPlanned) = 1 := by
  cases h with
  | direct => rfl
  | explained refused responds => rfl
  | carriedOut accepted ran told responds =>
      rw [List.countP_cons, List.countP_append, countP_invoked _ fun _ => rfl]
      rfl

theorem Course.direct_record (h : Course who request deadline world events turn) {content : String}
    (answer : turn.plan = .direct content) :
    events.countP (·.isResponded) = 0 ∧ events.countP (·.isInvoked) = 0 ∧ turn.modelCalls = 1 ∧
      turn.reply = content ∧ turn.violation = none ∧ turn.outcome = none := by
  cases h with
  | direct =>
      cases answer
      exact ⟨rfl, rfl, rfl, rfl, rfl, rfl⟩
  | explained refused responds => cases answer
  | carriedOut accepted ran told responds => cases answer

theorem Course.tools_record (h : Course who request deadline world events turn) {calls : ToolCalls}
    (called : turn.plan = .tools calls) :
    events.countP (·.isResponded) = 1 ∧ turn.modelCalls = 2 ∧
      turn.violation.isSome = !turn.outcome.isSome := by
  cases h with
  | direct => cases called
  | explained refused responds => exact ⟨rfl, rfl, rfl⟩
  | carriedOut accepted ran told responds =>
      refine ⟨?_, rfl, rfl⟩
      rw [List.countP_cons, List.countP_append, countP_invoked _ fun _ => rfl]
      rfl

theorem Course.accepted (h : Course who request deadline world events turn) {event : TurnEvent}
    (hevent : event ∈ events) (invoked : event.isInvoked = true) :
    ∃ calls, turn.plan = .tools calls ∧ validate calls who.registry = .ok () := by
  cases h with
  | direct =>
      obtain rfl := List.mem_singleton.1 hevent
      cases invoked
  | explained refused responds =>
      rcases List.mem_cons.1 hevent with rfl | hevent
      · cases invoked
      · obtain rfl := List.mem_singleton.1 hevent
        cases invoked
  | carriedOut accepted ran told responds => exact ⟨_, rfl, accepted⟩

end

end Turn

/-- Collaborators of whom the planner knows the same tools as before, and who check plans against
others. -/
def Collaborators.checking (who : Collaborators σ) (registry : Registry) : Collaborators σ where
  host := who.host
  planner := { plan := fun request _ world => who.planner.plan request who.registry world }
  responder := who.responder
  registry := registry

/-- A turn that returns, with its log: the plan, the course and the steps. -/
theorem exists_course {who : Collaborators σ} {request timeout : Json} {tracker : Tracker ω}
    {world : σ} {turn : TurnResult} (h : (runTurn who request timeout tracker world).1 = .ok turn) :
    ∃ deadline now between reported,
      Deadline.after timeout (who.host.clock world) = .ok deadline ∧
      who.host.now world = .ok now ∧
      who.planner.plan request who.registry world = (.ok turn.plan, between) ∧
      Turn.Course who request deadline between (turnEvents who request timeout tracker world)
        turn ∧
      tracker.Gained reported (.understanding :: .planning ::
        (((turn.outcome.map (·.results)).getD []).flatMap ExecutionResult.stepKinds ++
          [.completion])) ∧
      turn.steps = reported.steps := by
  have unlogged := runTurn_logged who request timeout tracker (world, [])
  cases logged : runTurn who.logged request timeout tracker (world, []) with
  | mk result rest =>
      obtain ⟨after, reported⟩ := rest
      rw [logged] at unlogged
      obtain rfl : result = .ok turn := by
        rw [unlogged] at h
        exact h
      obtain ⟨deadline, now, plan, between, timed, dated, plans, followed⟩ :=
        Turn.exists_followed logged
      obtain rfl := followed.plan_eq
      obtain ⟨plans, planned⟩ := Turn.events_of_plan plans
      -- the log was empty, so until the plan is followed it holds the question for it alone
      obtain ⟨between, before⟩ := between
      obtain rfl : before = [.planned request who.registry (.ok turn.plan)] := planned
      have events : turnEvents who request timeout tracker world = after.2 :=
        congrArg (·.2.1.2) logged
      obtain ⟨gained, steps⟩ := followed.gained
      exact ⟨deadline, now, between, reported, timed, dated, plans, events ▸ followed.course,
        (Tracker.gained_start _ rfl _ _).trans gained, steps⟩

/-- Whatever the request, the collaborators, the signals and the timeout: a turn that returns has a
record that can be relied on, and a direct answer does not depend on what plans are checked
against. -/
theorem turn_record {who : Collaborators σ} {request timeout : Json} {task : String}
    {ids : Nat → String} {observer : Option (Observer ω)} {seen : ω} {world : σ}
    {turn : TurnResult}
    (h : (runTurn who request timeout (.fresh task ids observer seen) world).1 = .ok turn) :
    TurnRecord who request timeout world
        (turnEvents who request timeout (.fresh task ids observer seen) world) turn ∧
      ∀ content, turn.plan = .direct content → ∀ registry,
        runTurn (who.checking registry) request timeout (.fresh task ids observer seen) world
          = runTurn who request timeout (.fresh task ids observer seen) world := by
  obtain ⟨deadline, now, between, reported, timed, dated, plans, course, gained, steps_eq⟩ :=
    exists_course h
  obtain ⟨steps, added, kinds, ended⟩ := gained
  have steps_eq : turn.steps = steps := by rw [steps_eq, added]; rfl
  refine ⟨⟨⟨deadline, between, timed, plans, course⟩, course.plannedOnce,
    fun content => course.direct_record, fun calls => course.tools_record,
    fun event => course.accepted, ?_, ?_⟩, ?_⟩
  · rw [steps_eq, kinds]
    rfl
  · rw [steps_eq]
    exact ended
  · intro content answer registry
    rw [answer] at plans
    have checked : (who.checking registry).planner.plan request registry world
        = (.ok (.direct content), between) := plans
    rw [Turn.runTurn_of_plan timed dated plans,
      @Turn.runTurn_of_plan _ _ (who.checking registry) _ _ _ _ _ _ _ _ timed dated checked]
    rfl

namespace Sample

/-- Whatever the request is, the plan is to pass a text on, and the reply is the same. -/
def collaborators (text : String) : Collaborators Unit where
  host := { host with now := fun _ => .ok default }
  planner := { plan := fun _ _ world => (.ok (.tools (plan text)), world) }
  responder := { respond := fun _ _ world => (.ok "done", world) }
  registry := registry

/-- A tracker that nobody observes. -/
def tracker : Tracker Unit := .fresh "task" (fun _ => "step") none ()

end Sample

theorem turn_record_refused :
    ∃ turn,
      (runTurn (Sample.collaborators "$0.output.total") .null .null Sample.tracker ()).1
        = .ok turn ∧
      turn.outcome.isSome = true ∧
      TurnRecord (Sample.collaborators "$0.output.total") .null .null ()
        (turnEvents (Sample.collaborators "$0.output.total") .null .null Sample.tracker ()) turn :=
  ⟨_, rfl, rfl, (turn_record rfl).1⟩

end CallPlan
