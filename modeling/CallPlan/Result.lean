import CallPlan.Record.Scalar
import CallPlan.Json.Literal

/-!
# CallPlan.Result

What tools return and what a run records.

* A `CallResult` is what a tool runtime returns for one call: structured content, blocks of text or
  other media beside it, and whether it reports an error.
* An `ExecutionResult` is the record of one call of a plan, an `Outcome` the record of a run. A run
  that halted names the call at which it did and why: the call that failed, which has a result, or
  the first call that was never started, which has none.
-/

namespace CallPlan

/-! ## Content blocks -/

/-- A block of unstructured content; keys beyond its kind and text are kept. -/
structure ContentBlock where
  kind : String
  text : Option String
  extras : Members
  deriving DecidableEq, Inhabited

namespace ContentBlock

/-- A block of text. -/
def ofText (text : String) : ContentBlock := ⟨"text", some text, []⟩

/-- A block as a JSON value: its fields, then the keys beyond them. -/
def toJson (block : ContentBlock) : Json :=
  .obj (("type", .str block.kind) :: ("text", Json.ofText? block.text) :: block.extras)

/-- Reads a block. -/
def check : Json → Checked ContentBlock :=
  Record.object fun ms =>
    (fun kind text => ContentBlock.mk kind text
        (ms.filter fun (key, _) => key ≠ "type" && key ≠ "text"))
      <$> Record.optional ms "type" "text" Record.text
      <*> Record.optional ms "text" none (Record.nullable Record.text)

end ContentBlock

/-! ## Results of calls -/

/-- What a tool runtime returns for one call. -/
structure CallResult where
  structured : Json
  content : List ContentBlock
  isError : Bool
  deriving DecidableEq, Inhabited

namespace CallResult

/-- A failure that a tool reports. -/
def error (message : String) : CallResult :=
  ⟨.obj [("error", .str message)], [.ofText message], true⟩

/-- A failure that a tool reports by any value; one that is neither a text nor null is refused. -/
def errorOf (message : Json) : Checked CallResult :=
  (fun text => ⟨.obj [("error", message)], [⟨"text", text, []⟩], true⟩) <$>
    (Record.nullable Record.text message).within (.key "text")

/-- A result as a JSON value. -/
def toJson (result : CallResult) : Json :=
  .obj [("structured_content", result.structured),
    ("content", .arr (result.content.map ContentBlock.toJson)), ("is_error", .bool result.isError)]

/-- Reads a result. -/
def check : Json → Checked CallResult :=
  Record.object fun ms =>
    CallResult.mk <$> Record.optional ms "structured_content" .null Record.any
      <*> Record.optional ms "content" [] (Record.list ContentBlock.check)
      <*> Record.optional ms "is_error" false Record.bool

end CallResult

/-- The record of one executed call. -/
structure ExecutionResult where
  index : Int
  tool : String
  structured : Json
  content : List ContentBlock
  isError : Bool
  /-- How long the call took, in milliseconds. -/
  duration : Int
  deriving DecidableEq, Inhabited

namespace ExecutionResult

/-- The record of what a runtime returned for a call. -/
def ofCall (index : Int) (tool : String) (result : CallResult) (duration : Int) :
    ExecutionResult :=
  ⟨index, tool, result.structured, result.content, result.isError, duration⟩

/-- The texts of the blocks, one to a line; blocks without text are left out. -/
def text (result : ExecutionResult) : String :=
  "\n".intercalate ((result.content.filterMap (·.text)).filter (· ≠ ""))

/-- The best description of a failure: the text of the blocks, else the structured content's field
`error`, else all of the structured content, if that can be written. A call that succeeded has
none. -/
def errorMessage (result : ExecutionResult) : Except LongNumber (Option String) :=
  if !result.isError then .ok none
  else if result.text ≠ "" then .ok (some result.text)
  else
    match result.structured.get? "error" with
    | some cause => (cause.spelled Json.display).map some
    | none => (result.structured.spelled Json.asciiText).map some

/-- A record as a JSON value. -/
def toJson (result : ExecutionResult) : Json :=
  .obj [("tool_index", .int result.index), ("tool_name", .str result.tool),
    ("structured_content", result.structured),
    ("content", .arr (result.content.map ContentBlock.toJson)), ("is_error", .bool result.isError),
    ("duration_ms", .int result.duration)]

/-- The values of any shape in a record. -/
def values (result : ExecutionResult) : List Json :=
  result.structured :: result.content.flatMap fun block => block.extras.map Prod.snd

/-- Reads a record. -/
def check : Json → Checked ExecutionResult :=
  Record.object fun ms =>
    ExecutionResult.mk <$> Record.required ms "tool_index" Record.int
      <*> Record.required ms "tool_name" Record.text
      <*> Record.optional ms "structured_content" .null Record.any
      <*> Record.optional ms "content" [] (Record.list ContentBlock.check)
      <*> Record.optional ms "is_error" false Record.bool
      <*> Record.optional ms "duration_ms" 0 Record.int

end ExecutionResult

/-! ## Outcomes of runs -/

/-- Why a run halted. -/
inductive HaltReason where
  | toolError
  | cancelled
  deriving DecidableEq, Inhabited

namespace HaltReason

/-- The word for a reason. -/
def word : HaltReason → String
  | .toolError => "tool_error"
  | .cancelled => "cancelled"

/-- The reason that a word names. -/
def ofWord? (s : String) : Option HaltReason :=
  if s = "tool_error" then some .toolError
  else if s = "cancelled" then some .cancelled
  else none

end HaltReason

/-- The record of a run: the results so far, and where and why it halted if it did. -/
structure Outcome where
  results : List ExecutionResult
  haltedAt : Option Int
  haltReason : Option HaltReason
  deriving DecidableEq, Inhabited

namespace Outcome

/-- A run of which nothing has happened yet. -/
def empty : Outcome := ⟨[], none, none⟩

/-- Whether every planned call ran. -/
def completed (outcome : Outcome) : Bool := outcome.haltedAt.isNone

/-- The results of the calls that succeeded. -/
def successful (outcome : Outcome) : List ExecutionResult :=
  outcome.results.filter fun r => !r.isError

/-- The results of the calls that failed. -/
def failed (outcome : Outcome) : List ExecutionResult := outcome.results.filter (·.isError)

/-- An outcome as a JSON value. -/
def toJson (outcome : Outcome) : Json :=
  .obj [("results", .arr (outcome.results.map ExecutionResult.toJson)),
    ("halted_at", Json.ofInt? outcome.haltedAt),
    ("halt_reason", Json.ofText? (outcome.haltReason.map HaltReason.word))]

/-- Reads an outcome. -/
def check : Json → Checked Outcome :=
  Record.object fun ms =>
    Outcome.mk <$> Record.optional ms "results" [] (Record.list ExecutionResult.check)
      <*> Record.optional ms "halted_at" none (Record.nullable Record.int)
      <*> Record.optional ms "halt_reason" none
        (Record.nullable (Record.word HaltReason.ofWord? .literalError))

end Outcome

end CallPlan
