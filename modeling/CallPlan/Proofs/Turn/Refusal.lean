import CallPlan.Proofs.Turn.Record
import CallPlan.Proofs.Validation.Exact

/-!
# CallPlan.Proofs.Turn.Refusal

What becomes of a plan that is not accepted.

* Where validation finds a violation, the responder is asked to explain it, and no one else is asked
  for anything (`events_of_violation`).
* Where validation comes to an obstacle before any fault, it is given up, and the turn with it
  (`events_of_unchecked`). This is not what validation is for: a refused plan should end in an
  explanation.
* `validation_ends_iff` says exactly when this happens.
-/

namespace CallPlan

variable {σ ω : Type}

namespace Turn

section
variable {who : Collaborators σ} {request timeout : Json} {deadline : Option Deadline}
  {tracker : Tracker ω} {world between : σ} {now now' : DateTime} {calls : ToolCalls}

/-- A plan with a violation is explained. -/
theorem follow_of_violation {v : Violation} (dated : who.host.now world = .ok now)
    (refused : validate calls who.registry = .error (.violation v)) :
    follow who request (.tools calls) deadline tracker world
      = explain who request calls v
          (tracker.planning calls.reasoning (some calls.calls) now) world := by
  unfold follow Turn.dated
  rw [dated]
  dsimp only
  rw [refused]

/-- A plan that cannot be checked to its end ends the turn. -/
theorem follow_of_unchecked {cause : Unchecked} (dated : who.host.now world = .ok now)
    (refused : validate calls who.registry = .error (.unchecked cause)) :
    follow who request (.tools calls) deadline tracker world
      = (.error (.unchecked cause), world,
          tracker.planning calls.reasoning (some calls.calls) now) := by
  unfold follow Turn.dated
  rw [dated]
  dsimp only
  rw [refused]

/-- A world in which a step is dated is the world afterwards. -/
theorem world_dated {α : Type} {next : DateTime → Except Failure α × σ × Tracker ω}
    (same : ∀ now, (next now).2.1 = world) : (dated who tracker world next).2.1 = world := by
  unfold dated
  cases who.host.now world with
  | ok now => exact same now
  | error failure => rfl

/-- A turn for which a plan has been made, with its log. -/
theorem logged_of_plan (timed : Deadline.after timeout (who.host.clock world) = .ok deadline)
    (dated : who.host.now world = .ok now)
    (plans : who.planner.plan request who.registry world = (.ok (.tools calls), between)) :
    runTurn who.logged request timeout tracker (world, [])
      = follow who.logged request (.tools calls) deadline (tracker.understanding now)
          (between, [.planned request who.registry (.ok (.tools calls))]) := by
  have logged : who.logged.planner.plan request who.logged.registry (world, [])
      = (.ok (.tools calls), (between, [.planned request who.registry (.ok (.tools calls))])) := by
    rw [plan_logged]
    have registry_eq : who.logged.registry = who.registry := rfl
    rw [registry_eq, plans]
    rfl
  have timed : Deadline.after timeout (who.logged.host.clock (world, [])) = .ok deadline := timed
  have dated : who.logged.host.now (world, []) = .ok now := dated
  exact runTurn_of_plan timed dated logged

/-- A violation is explained by the responder, and nothing else is done. -/
theorem events_of_violation {v : Violation}
    (timed : Deadline.after timeout (who.host.clock world) = .ok deadline)
    (dated : who.host.now world = .ok now)
    (plans : who.planner.plan request who.registry world = (.ok (.tools calls), between))
    (datedPlan : who.host.now between = .ok now')
    (refused : validate calls who.registry = .error (.violation v)) :
    turnEvents who request timeout tracker world =
      [.planned request who.registry (.ok (.tools calls)),
        .responded request (.str v.failureText)
          (who.responder.respond request (.str v.failureText) between).1] := by
  have datedLog : who.logged.host.now
      (between, [.planned request who.registry (.ok (.tools calls))]) = .ok now' := datedPlan
  have refusedLog : validate calls who.logged.registry = .error (.violation v) := refused
  unfold turnEvents
  rw [logged_of_plan timed dated plans, follow_of_violation datedLog refusedLog]
  unfold explain
  rw [respond_logged]
  cases who.responder.respond request (.str v.failureText) between with
  | mk returned after =>
      cases returned with
      | error failure => rfl
      | ok reply =>
          dsimp only
          exact congrArg Prod.snd (world_dated (by intro now; rfl))

/-- Where validation is given up, so is the turn. -/
theorem events_of_unchecked {cause : Unchecked}
    (timed : Deadline.after timeout (who.host.clock world) = .ok deadline)
    (dated : who.host.now world = .ok now)
    (plans : who.planner.plan request who.registry world = (.ok (.tools calls), between))
    (datedPlan : who.host.now between = .ok now')
    (refused : validate calls who.registry = .error (.unchecked cause)) :
    (runTurn who request timeout tracker world).1 = .error (.unchecked cause) ∧
      turnEvents who request timeout tracker world =
        [.planned request who.registry (.ok (.tools calls))] := by
  have datedLog : who.logged.host.now
      (between, [.planned request who.registry (.ok (.tools calls))]) = .ok now' := datedPlan
  have refusedLog : validate calls who.logged.registry = .error (.unchecked cause) := refused
  constructor
  · rw [runTurn_of_plan timed dated plans, follow_of_unchecked datedPlan refused]
  · unfold turnEvents
    rw [logged_of_plan timed dated plans, follow_of_unchecked datedLog refusedLog]

end

/-- What becomes of a turn whose plan is not accepted: the responder is asked to explain the
violation, or the turn is given up at an obstacle. -/
inductive Refused (who : Collaborators σ) (request : Json) (between : σ) (calls : ToolCalls) :
    List TurnEvent → Except Failure TurnResult → Prop where
  | explained {v : Violation} {result : Except Failure TurnResult}
      (violation : Validation.FirstFlaw who.registry calls (.violation v)) :
      Refused who request between calls
        [.planned request who.registry (.ok (.tools calls)),
          .responded request (.str v.failureText)
            (who.responder.respond request (.str v.failureText) between).1] result
  | givenUp {cause : Unchecked}
      (obstacle : Validation.FirstFlaw who.registry calls (.unchecked cause)) :
      Refused who request between calls [.planned request who.registry (.ok (.tools calls))]
        (.error (.unchecked cause))

end Turn

/-- Validation accepts a plan or finds a violation, unless an obstacle comes first; and in a turn for
which this plan has been made and is not accepted, the responder is asked to explain the violation,
unless the turn is given up at an obstacle. -/
theorem validation_ends_iff (plan : ToolCalls) (registry : Registry) :
    ((validate plan registry = .ok () ∨ ∃ v, validate plan registry = .error (.violation v)) ↔
        ∀ cause, ¬ Validation.FirstFlaw registry plan (.unchecked cause)) ∧
    ∀ {σ ω : Type} (who : Collaborators σ) (request timeout : Json) (tracker : Tracker ω)
      (world between : σ) (deadline : Option Deadline) (now now' : DateTime),
      who.registry = registry →
      Deadline.after timeout (who.host.clock world) = .ok deadline →
      who.host.now world = .ok now →
      who.planner.plan request registry world = (.ok (.tools plan), between) →
      who.host.now between = .ok now' →
      validate plan registry ≠ .ok () →
      Turn.Refused who request between plan (turnEvents who request timeout tracker world)
        (runTurn who request timeout tracker world).1 := by
  refine ⟨Validation.ends_iff, ?_⟩
  rintro σ ω who request timeout tracker world between deadline now now' rfl timed dated plans
    datedPlan refused
  match valid : validate plan who.registry with
  | .ok () => exact absurd valid refused
  | .error (.violation v) =>
      rw [Turn.events_of_violation timed dated plans datedPlan valid]
      exact .explained (Validation.validate_eq_error_iff_first.1 valid)
  | .error (.unchecked cause) =>
      obtain ⟨ended, events⟩ :=
        @Turn.events_of_unchecked _ _ who _ _ _ tracker _ _ _ _ _ _ timed dated plans datedPlan valid
      rw [events, ended]
      exact .givenUp (Validation.validate_eq_error_iff_first.1 valid)

/-- A violation is explained; here that of a text that is put in place of a number. -/
theorem validation_ends_iff_typeMismatch :
    (∀ cause, ¬ Validation.FirstFlaw Sample.registry (Sample.plan "$0.output.rows")
        (.unchecked cause)) ∧
      validate (Sample.plan "$0.output.rows") Sample.registry ≠ .ok () ∧
      Turn.Refused (Sample.collaborators "$0.output.rows") .null () (Sample.plan "$0.output.rows")
        (turnEvents (Sample.collaborators "$0.output.rows") .null .null Sample.tracker ())
        (runTurn (Sample.collaborators "$0.output.rows") .null .null Sample.tracker ()).1 := by
  have rejected : validate (Sample.plan "$0.output.rows") Sample.registry = .error (.violation
      ⟨1, "size", "$0.output.rows", .typeMismatch (.str "integer") (.str "array")⟩) := by rfl
  have refused : validate (Sample.plan "$0.output.rows") Sample.registry ≠ .ok () := by
    rw [rejected]
    exact nofun
  exact ⟨(validation_ends_iff _ _).1.1 (.inr ⟨_, rejected⟩), refused,
    (validation_ends_iff _ _).2 _ _ _ _ _ _ _ _ _ rfl rfl rfl rfl rfl refused⟩

namespace Sample

/-- A tool of which one field may be anything. -/
def anything : ToolSchema := ⟨"list", "", [], [("properties", .obj [("total", .bool true)])]⟩

/-- Collaborators who know this tool in place of the one that counts rows. -/
def loose : Collaborators Unit :=
  { collaborators "$0.output.total" with registry := .ofList [anything, page] }

end Sample

/-- Validation does not always accept a plan or find a violation: a plan that can be read is given up
where the schema of a field is no object, and with it the turn, without the responder being asked. -/
theorem exists_given_up :
    Plan.check .text (Plan.toJson (.tools (Sample.plan "$0.output.total")))
        = .ok (.tools (Sample.plan "$0.output.total")) ∧
      validate (Sample.plan "$0.output.total") Sample.loose.registry
        = .error (.unchecked (.fieldSchema (.bool true))) ∧
      (runTurn Sample.loose .null .null Sample.tracker ()).1
        = .error (.unchecked (.fieldSchema (.bool true))) ∧
      (turnEvents Sample.loose .null .null Sample.tracker ()).countP (·.isResponded) = 0 :=
  ⟨rfl, rfl, rfl, rfl⟩

end CallPlan
