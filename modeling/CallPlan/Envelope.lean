import CallPlan.Result
import CallPlan.ToolSchema
import CallPlan.Json.Reader

/-!
# CallPlan.Envelope

The standard form of a tool's output: an artifact, its id, and the context it was made in.

* An `Envelope` is the typed form. On the wire it is an object with the keys `artifact_id`,
  `artifact` and `_metadata`; any object with these three keys counts as wrapped.
* The compact document, the structured content and the text block of an envelope all stand for the
  same value, `Envelope.toJson`; numbers that are not finite become null in each of them. What is
  nested too deep is not written at all.
-/

namespace CallPlan

/-! ## Wrapped values -/

namespace Wrapped

/-- The keys of an envelope on the wire. -/
def keys : List String := ["artifact_id", "artifact", "_metadata"]

/-- Whether a value has all keys of an envelope. -/
def isWrapped : Json → Bool
  | .obj ms => keys.all (Members.contains ms)
  | _ => false

/-- The artifact of an envelope; any other value is itself. -/
def unwrap (value : Json) : Json :=
  if isWrapped value then (value.get? "artifact").getD value else value

/-- The skill that an output names: its own field `skill_id` if that is a text, else that of its
metadata. -/
def skillId? : Json → Option String
  | .obj ms =>
    match Members.get? ms "skill_id" with
    | some (.str id) => some id
    | _ =>
      match (Members.get? ms "_metadata").bind (·.get? "skill_id") with
      | some (.str id) => some id
      | _ => none
  | _ => none

/-- The display name of a skill, from the metadata of an output. -/
def skillName? (value : Json) : Option String :=
  match (value.get? "_metadata").bind (·.get? "skill_name") with
  | some (.str name) => some name
  | _ => none

/-- The schema of a text. -/
def textSchema : Json := .obj [("type", .str "string")]

/-- The schema of an envelope whose artifact follows a schema; one that says nothing leaves that the
artifact is an object. -/
def outputSchema (artifact : Json) : Members :=
  let artifact := if artifact.isVoid then .obj ToolSchema.anyObject else artifact
  [("type", .str "object"),
    ("properties", .obj
      [("artifact_id", textSchema), ("artifact", artifact),
        ("_metadata", .obj
          [("type", .str "object"),
            ("properties", .obj
              [("context_id", textSchema), ("request_id", textSchema), ("trace_id", textSchema),
                ("user_id", textSchema), ("tool_name", textSchema),
                ("executed_at",
                  .obj [("type", .str "string"), ("format", .str "date-time")])])])]),
    ("required", .arr (keys.map .str))]

end Wrapped

/-! ## Envelopes -/

/-- Values that a record takes when they are not given: the present time, and an identifier that
nothing else has. -/
structure Fresh where
  now : DateTime
  id : String
  deriving Inhabited

/-- The context in which a tool was run; keys beyond the declared ones are kept. -/
structure Metadata where
  contextId : String
  requestId : String
  traceId : String
  userId : String
  tool : String
  executedAt : DateTime
  extras : Members
  deriving DecidableEq, Inhabited

namespace Metadata

/-- The declared keys. -/
def keys : List String :=
  ["context_id", "request_id", "trace_id", "user_id", "tool_name", "executed_at"]

/-- Metadata as a JSON value: the declared fields, then the keys beyond them. -/
def toJson (metadata : Metadata) : Json :=
  .obj ([("context_id", .str metadata.contextId), ("request_id", .str metadata.requestId),
    ("trace_id", .str metadata.traceId), ("user_id", .str metadata.userId),
    ("tool_name", .str metadata.tool), ("executed_at", .str metadata.executedAt.text)] ++
    metadata.extras)

/-- Reads metadata. -/
def check (origin : Origin) (fresh : Fresh) : Json → Checked Metadata :=
  Record.object fun ms =>
    (fun contextId requestId traceId userId tool executedAt =>
        Metadata.mk contextId requestId traceId userId tool executedAt
          (ms.filter fun (key, _) => !keys.contains key))
      <$> Record.optional ms "context_id" "" Record.text
      <*> Record.optional ms "request_id" fresh.id Record.text
      <*> Record.optional ms "trace_id" "" Record.text
      <*> Record.optional ms "user_id" "" Record.text
      <*> Record.required ms "tool_name" Record.text
      <*> Record.optional ms "executed_at" fresh.now (Record.dateTime origin)

end Metadata

/-- An artifact with its id and the context it was made in. -/
structure Envelope where
  artifactId : String
  artifact : Json
  metadata : Metadata
  deriving DecidableEq, Inhabited

namespace Envelope

/-- An envelope with its values as they are, also numbers that are not finite. -/
def dump (envelope : Envelope) : Json :=
  .obj [("artifact_id", .str envelope.artifactId), ("artifact", envelope.artifact),
    ("_metadata", envelope.metadata.toJson)]

/-- An envelope as a JSON value for the wire. -/
def toJson (envelope : Envelope) : Json := envelope.dump.finiteOnly

/-- An envelope as a compact document. -/
def document (envelope : Envelope) : String := envelope.dump.compactText

/-- The values of any shape in an envelope. -/
def values (envelope : Envelope) : List Json :=
  envelope.artifact :: envelope.metadata.extras.map Prod.snd

/-- Whether an envelope can be written: neither its artifact nor a further key of its metadata is
nested too deep. -/
def isWritable (envelope : Envelope) : Bool := envelope.values.all Json.isWritable

/-- An envelope as a compact document, if it can be written. -/
def document? (envelope : Envelope) : Option String :=
  if envelope.isWritable then some envelope.document else none

/-- The successful result that carries an envelope, if its text can be written: as structured
content, and again as text. -/
def toResult (envelope : Envelope) : Except LongNumber CallResult :=
  (envelope.toJson.spelled Json.text).map fun text => ⟨envelope.toJson, [.ofText text], false⟩

/-- Reads an envelope. The metadata may also stand under its name without the underscore. -/
def check (origin : Origin) (fresh : Fresh) : Json → Checked Envelope :=
  Record.object fun ms =>
    let metadataKey :=
      if !Members.contains ms "_metadata" && Members.contains ms "metadata" then "metadata"
      else "_metadata"
    Envelope.mk <$> Record.required ms "artifact_id" Record.text
      <*> Record.required ms "artifact" Record.any
      <*> Record.required ms metadataKey (Metadata.check origin fresh)

/-- Reads an envelope from a value that is to be the text of a document. -/
def parse (fresh : Fresh) (text : Json) : Checked Envelope :=
  Record.document (check .text fresh) text

/-- Reads an envelope from its own document; without one there is no text to read. -/
def reread (fresh : Fresh) (envelope : Envelope) : Checked Envelope :=
  parse fresh ((envelope.document?.map .str).getD .null)

end Envelope

end CallPlan
