import CallPlan.Reference
import CallPlan.Envelope

/-!
# CallPlan.Resolve

Resolving references against the results of the calls before.

* A path is followed key by key through the structured content. If that fails and the content is an
  envelope, the path is followed inside the artifact instead, from its first key on.
* `substitute` puts the values that references resolve to in the place of the references. A value
  that was put in is not looked at again, whatever texts it holds.
-/

namespace CallPlan

namespace Json

/-- The value that a list of keys leads to. -/
def follow? : Json → List String → Option Json
  | value, [] => some value
  | value, key :: rest => (value.get? key).bind (·.follow? rest)

/-- The field that a path names in a structured content: in the content itself, else in the artifact
of an envelope. -/
def field? (content : Json) (path : List String) : Option Json :=
  match content.follow? path with
  | some value => some value
  | none =>
    if Wrapped.isWrapped content then (content.get? "artifact").bind (·.follow? path) else none

end Json

/-- Why a reference has no value. -/
inductive Unresolved where
  /-- Its index is too long to be converted. -/
  | longIndex (index : LongIndex)
  /-- The call it names has no result yet. -/
  | noResult (reference : Reference) (count : Nat)
  /-- The output of the call does not have the field. -/
  | noField (reference : Reference) (tool : String)
  deriving DecidableEq, Inhabited

namespace Unresolved

/-- The message of a reference without a value. -/
def message : Unresolved → String
  | .longIndex index => index.message
  | .noResult reference count =>
    "'" ++ reference.raw ++ "' references call " ++ toString reference.source ++ " but only " ++
      toString count ++ " result(s) exist"
  | .noField reference tool =>
    "'" ++ reference.raw ++ "' does not exist in the output of '" ++ tool ++ "'"

end Unresolved

namespace Reference

/-- The value a reference stands for, given the results so far. -/
def resolve (reference : Reference) (results : List ExecutionResult) : Except Unresolved Json :=
  match results[reference.source]? with
  | none => .error (.noResult reference results.length)
  | some result =>
    match result.structured.field? reference.path with
    | none => .error (.noField reference result.tool)
    | some value => .ok value

/-- The value a text stands for: what it refers to if it is a reference, else itself. -/
def resolveText (results : List ExecutionResult) (text : String) : Except Unresolved Json :=
  match parse text with
  | .error index => .error (.longIndex index)
  | .ok none => .ok (.str text)
  | .ok (some reference) => reference.resolve results

end Reference

/-- A value with every reference replaced by the value it stands for; the first one without a value,
in order, decides the error. -/
def substitute (value : Json) (results : List ExecutionResult) : Except Unresolved Json :=
  value.mapLeavesM fun _ text => Reference.resolveText results text

/-- Arguments with every reference replaced by the value it stands for. -/
def substituteArguments (arguments : Members) (results : List ExecutionResult) :
    Except Unresolved Members :=
  Json.mapMemberLeavesM (fun _ text => Reference.resolveText results text) arguments

end CallPlan
