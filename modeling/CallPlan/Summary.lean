import CallPlan.Result
import CallPlan.Plan

/-!
# CallPlan.Summary

The plain-text account of a run, for the responding model: one line for each result, and for a run
that halted where it did and which planned calls were never run.
-/

namespace CallPlan

namespace Summary

/-- The most characters of an output that are shown. -/
def outputLimit : Nat := 4000

/-- A long text cut to what is shown of it. -/
def cut (text : String) : String :=
  if outputLimit < Text.length text then Text.first outputLimit text ++ "..." else text

/-- An output as text, if it can be written; a long one is cut. -/
def outputText (value : Json) : Except LongNumber String := (value.spelled Json.text).map cut

/-- What the line of a result says about it: the error, or the output. -/
def shown (result : ExecutionResult) : Except LongNumber String :=
  if result.isError then result.errorMessage.map (·.getD "") else outputText result.structured

/-- The line of a result about which something is said. Positions and durations of calls are never
too long to be written. -/
def lineOf (result : ExecutionResult) (shown : String) : String :=
  let status := if result.isError then "error" else "success"
  "[" ++ toString result.index ++ "] " ++ result.tool ++ " (" ++ status ++ ", " ++
    toString result.duration ++ " ms): " ++ shown

/-- The line of a result, if it can be written. -/
def resultLine (result : ExecutionResult) : Except LongNumber String :=
  (shown result).map (lineOf result)

/-- The lines about a run that halted. -/
def haltLines (plan : ToolCalls) (outcome : Outcome) : List String :=
  match outcome.haltedAt with
  | none => []
  | some position =>
    let skipped := (plan.calls.drop outcome.results.length).map (·.tool)
    let reason := if outcome.haltReason = some .cancelled then "was cancelled" else "halted"
    ("Execution " ++ reason ++ " at step " ++ toString position ++ ".") ::
      (if skipped.isEmpty then []
        else [toString skipped.length ++ " planned call(s) did not run: " ++
          ", ".intercalate skipped])

/-- The account of what ran, what failed and what never ran, if all of it can be written. -/
def text (plan : ToolCalls) (outcome : Outcome) : Except LongNumber String := do
  let lines ← outcome.results.mapM resultLine
  return "\n".intercalate ("Tool execution results:" :: (lines ++ haltLines plan outcome))

end Summary

end CallPlan
