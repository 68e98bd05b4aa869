import CallPlan.Terminal
import CallPlan.Failure

/-!
# CallPlan.Shell.Transcript

What the user sees of a response of the service: a plan that was rejected, the calls with their
results, where a run halted, and the reply.

The response is any JSON value, read field by field as it is shown. Where it does not have the shape
that is relied on, or a number in it has too many digits, showing it fails there; the lines before
have been shown.
-/

namespace CallPlan

namespace Transcript

/-- The lines that have been shown so far, and whether showing more failed. -/
abbrev Showing := ExceptT Failure (StateM (List String))

/-- Shows a line. -/
def tell (colour : Colour) (text : String) : Showing Unit := modify (· ++ [colour.line text])

/-- Fails for want of a shape. -/
def lacks {α : Type} (fault : ShapeFault) : Showing α := throw (.shape fault)

/-- A value as it is shown. -/
def shown (value : Json) : Showing String :=
  match value.spelled Json.display with
  | .ok text => return text
  | .error long => throw (.ofLongNumber long)

/-- The field of an object that may lack it. -/
def field? (value : Json) (key : String) : Showing (Option Json) :=
  match value with
  | .obj ms => return Members.get? ms key
  | _ => lacks .operation

/-- The field of an object that must have it. -/
def field (value : Json) (key : String) : Showing Json :=
  match value with
  | .obj ms =>
    match Members.get? ms key with
    | some v => return v
    | none => lacks .key
  | _ => lacks .kind

/-- The items that a value consists of: those of a list, the keys of an object, the characters of a
text. -/
def items : Json → Showing (List Json)
  | .arr items => return items
  | .obj ms => return ms.map fun (key, _) => .str key
  | .str s => return s.toList.map fun c => .str (String.singleton c)
  | _ => lacks .kind

/-- The colour of a result: red if it reports an error. -/
def resultColour (result : Json) : Showing Colour := do
  let failed := (← field? result "is_error").getD .null
  return if failed.isVoid then .green else .red

/-- Shows the result of a call. -/
def result (value : Json) : Showing Unit := do
  let index ← shown (← field value "tool_index")
  let tool ← shown (← field value "tool_name")
  let duration ← shown ((← field? value "duration_ms").getD (.int 0))
  let colour ← resultColour value
  tell colour ("[" ++ index ++ "] " ++ tool ++ " (" ++ duration ++ " ms)")

/-- Shows the outcome of a run. -/
def outcome (value : Json) : Showing Unit := do
  (← items ((← field? value "results").getD (.arr []))).forM result
  match (← field? value "halted_at").getD .null with
  | .null => return
  | position => tell .red ("⚠️ Execution halted at step " ++ (← shown position))

/-- Shows a response. -/
def response (value : Json) : Showing Unit := do
  let rejection := (← field? value "validation_error").getD .null
  unless rejection.isVoid do
    tell .red ("⚠️ Plan rejected: " ++ (← shown rejection))
  let ran := (← field? value "outcome").getD .null
  unless ran.isVoid do
    outcome ran
  tell .yellow (← shown ((← field? value "reply").getD (.str "No response from API")))

/-- The lines that are shown of a response, and the failure that ended showing it if one did. -/
def ofResponse (value : Json) : List String × Option Failure :=
  match (response value).run.run [] with
  | (.ok (), shown) => (shown, none)
  | (.error failure, shown) => (shown, some failure)

end Transcript

end CallPlan
