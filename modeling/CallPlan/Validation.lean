import CallPlan.Validation.Violation
import CallPlan.Plan
import CallPlan.Reference
import CallPlan.Registry

/-!
# CallPlan.Validation

Checking a plan before anything of it is run.

* Every called tool must be registered. Every text in the arguments that was meant as a reference
  must be one, must name an earlier call, and must name a field that the tool of that call declares;
  and if both the field and the argument declare types, these must be the same.
* Calls are checked in the order of the plan and texts in the order of the arguments; the first
  violation is the result.
* Besides violations, a check ends with an `Unchecked` cause when an index is too long to be
  converted, when the schema of a referenced field is no object, or when a schema lists a type that
  is too long to be written.
-/

namespace CallPlan

/-- Why a plan could not be checked to its end. -/
inductive Unchecked where
  | longIndex (index : LongIndex)
  /-- The schema of a referenced field is no object. -/
  | fieldSchema (schema : Json)
  /-- A schema lists a type that cannot be written. -/
  | longType (long : LongNumber)
  deriving DecidableEq, Inhabited

/-- Why a plan is not accepted. -/
inductive Rejection where
  | violation (v : Violation)
  | unchecked (cause : Unchecked)
  deriving DecidableEq, Inhabited

namespace Validation

/-- The output schema of the tool that a call of a plan names; nothing is known of a tool that is
not registered. -/
def outputSchema (registry : Registry) (tool : String) : Json :=
  match registry.lookup tool with
  | some schema => .obj schema.output
  | none => .obj []

/-- Checks that the types of a referenced field and of the argument it is put into agree. -/
def checkTypes (index : Nat) (place : Location) (reference : Reference) (field input : Json) :
    Except Rejection Unit :=
  match field with
  | .obj ms =>
    match TypeSet.ofDeclared? (Members.get? ms "type"), Schema.typeAt input place with
    | .error long, _ | .ok _, .error long => .error (.unchecked (.longType long))
    | .ok (some found), .ok (some expected) =>
      if found = expected then .ok ()
      else
        .error (.violation ⟨index, place.text, reference.raw,
          .typeMismatch expected.display found.display⟩)
    | .ok _, .ok _ => .ok ()
  | schema => .error (.unchecked (.fieldSchema schema))

/-- Checks a reference at a location of the arguments of a call. -/
def checkReference (registry : Registry) (plan : ToolCalls) (index : Nat) (input : Json)
    (place : Location) (reference : Reference) : Except Rejection Unit :=
  if reference.source < index then
    let source := ((plan.calls[reference.source]?).map (·.tool)).getD ""
    match Schema.field (outputSchema registry source) reference.path with
    | .missing segment siblings =>
      .error (.violation ⟨index, place.text, reference.raw,
        .fieldNotFound source segment (Text.sorted siblings)⟩)
    | .longType long => .error (.unchecked (.longType long))
    | .found field => checkTypes index place reference field input
  else
    .error (.violation ⟨index, place.text, reference.raw, .outOfBounds reference.source⟩)

/-- Checks a text of the arguments that was meant as a reference. -/
def checkText (registry : Registry) (plan : ToolCalls) (index : Nat) (input : Json)
    (place : Location) (text : String) : Except Rejection Unit :=
  match Reference.parse text with
  | .error long => .error (.unchecked (.longIndex long))
  | .ok none => .error (.violation ⟨index, place.text, text, .malformed⟩)
  | .ok (some reference) => checkReference registry plan index input place reference

/-- Checks texts of the arguments one after the other. -/
def checkTexts (registry : Registry) (plan : ToolCalls) (index : Nat) (input : Json) :
    List (Location × String) → Except Rejection Unit
  | [] => .ok ()
  | (place, text) :: rest => do
    checkText registry plan index input place text
    checkTexts registry plan index input rest

/-- Checks a call of a plan. -/
def checkCall (registry : Registry) (plan : ToolCalls) (index : Nat) (call : PlannedCall) :
    Except Rejection Unit :=
  match registry.lookup call.tool with
  | none =>
    .error (.violation ⟨index, "", "", .fieldNotFound call.tool call.tool registry.names⟩)
  | some schema =>
    checkTexts registry plan index (.obj schema.input) (Reference.candidates (.obj call.arguments))

/-- Checks calls of a plan from an index on. -/
def checkCallsFrom (registry : Registry) (plan : ToolCalls) (index : Nat) :
    List PlannedCall → Except Rejection Unit
  | [] => .ok ()
  | call :: rest => do
    checkCall registry plan index call
    checkCallsFrom registry plan (index + 1) rest

end Validation

/-- Checks a plan against the registered tools; the first thing wrong is the result. -/
def validate (plan : ToolCalls) (registry : Registry) : Except Rejection Unit :=
  Validation.checkCallsFrom registry plan 0 plan.calls

end CallPlan
