import CallPlan.Validation.Field

/-!
# CallPlan.Validation.Violation

What may be wrong with a plan.

A violation says which call is at fault, in which argument and for which text, and why. Its message
explains this to a person, its details to a program.
-/

namespace CallPlan

/-- Why a reference in a plan cannot be satisfied. -/
inductive ViolationCause where
  /-- Nothing more is said. -/
  | unspecified
  /-- The text begins like a reference but is none. -/
  | malformed
  /-- It names the calling call itself or a later one. -/
  | outOfBounds (referenced : Int)
  /-- A key of the path is not declared by the tool; or the called tool is not registered. -/
  | fieldNotFound (tool field : String) (available : List String)
  /-- The field and the argument declare different types. -/
  | typeMismatch (expected found : Json)
  deriving DecidableEq, Inhabited

/-- Something wrong with a plan, and where. -/
structure Violation where
  call : Int
  argument : String
  template : String
  cause : ViolationCause
  deriving DecidableEq, Inhabited

namespace Violation

/-- The word for the kind of a violation. -/
def kind (v : Violation) : String :=
  match v.cause with
  | .unspecified => "validation_error"
  | .malformed => "invalid_template_syntax"
  | .outOfBounds _ => "index_out_of_bounds"
  | .fieldNotFound .. => "field_not_found"
  | .typeMismatch .. => "type_mismatch"

/-- The highest index that a call may refer to; none for the first call. -/
def maxValidIndex (v : Violation) : Option Int := if 0 < v.call then some (v.call - 1) else none

/-- What is wrong, for a person. -/
def message (v : Violation) : String :=
  let tool := "Tool " ++ toString v.call ++ ": "
  match v.cause with
  | .unspecified => tool ++ "invalid template '" ++ v.template ++ "' for '" ++ v.argument ++ "'"
  | .malformed =>
    tool ++ "Invalid template syntax '" ++ v.template ++ "' for argument '" ++ v.argument ++ "'"
  | .outOfBounds referenced =>
    let available := match v.maxValidIndex with
      | none => "no earlier tools are available"
      | some last => "only tools 0-" ++ toString last ++ " have executed before it"
    tool ++ "Template '" ++ v.template ++ "' references tool " ++ toString referenced ++ " but " ++
      available
  | .fieldNotFound source field available =>
    let names := ", ".intercalate available
    if v.template = "" then
      tool ++ "'" ++ source ++ "' is not a registered tool (available: [" ++ names ++ "])"
    else
      tool ++ "Template '" ++ v.template ++ "' references field '" ++ field ++ "' but tool '" ++
        source ++ "' outputs: [" ++ names ++ "]"
  | .typeMismatch expected found =>
    tool ++ "Template '" ++ v.template ++ "' yields type '" ++ found.display ++
      "' but argument '" ++ v.argument ++ "' expects '" ++ expected.display ++ "'"

/-- What only violations of its kind have. -/
def causeDetails (v : Violation) : Members :=
  match v.cause with
  | .unspecified | .malformed => []
  | .outOfBounds referenced =>
    [("referenced_index", .int referenced), ("max_valid_index", Json.ofInt? v.maxValidIndex)]
  | .fieldNotFound tool field available =>
    [("tool_name", .str tool), ("field", .str field),
      ("available_fields", .arr (available.map .str))]
  | .typeMismatch expected found => [("expected", expected), ("found", found)]

/-- What is wrong, for a program. -/
def details (v : Violation) : Members :=
  [("tool_index", .int v.call), ("argument", .str v.argument), ("template", .str v.template),
    ("kind", .str v.kind)] ++ v.causeDetails

/-- What the responding model is told about a plan that was not run. -/
def failureText (v : Violation) : String := "Plan validation failed:\n- " ++ v.message

end Violation

end CallPlan
