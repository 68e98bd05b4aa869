import CallPlan.Proofs.Envelope.Forms
import CallPlan.Proofs.Schema.Instance
import CallPlan.Proofs.Tool.Accord

/-!
# CallPlan.Proofs.Tool.Promise

What the schema of an envelope promises, and what a call returns.

* An envelope holds its own fields under its own keys; any other path leads into the artifact
  (`Envelope.Holds`). If the artifact has all that its schema declares, then each path that is found
  in the schema of the envelope is found in the envelope, and there (`Envelope.keeps_outputSchema`).
* A tool that was registered without a schema of its output offers that of an envelope
  (`Toolbox.offers_of_register`). A call keeps the promise if what the tool returns can be written
  (`Toolbox.call_keeps_iff`); of a value that is nested too deep, or has a key with a surrogate alone,
  there is no envelope, and of one with a number of too many digits there is no text.
-/

namespace CallPlan

/-! ## The schema of an envelope -/

namespace Wrapped

open Schema

/-- The schema of an artifact, as it stands in the schema of its envelope. -/
def artifactSchema (artifact : Json) : Json :=
  if artifact.isVoid then .obj ToolSchema.anyObject else artifact

/-- The schema of the metadata, as it stands in the schema of every envelope. -/
def metadataSchema : Json :=
  .obj [("type", .str "object"),
    ("properties", .obj
      [("context_id", textSchema), ("request_id", textSchema), ("trace_id", textSchema),
        ("user_id", textSchema), ("tool_name", textSchema),
        ("executed_at", .obj [("type", .str "string"), ("format", .str "date-time")])])]

theorem properties_outputSchema (artifact : Json) :
    properties (.obj (outputSchema artifact)) = [("artifact_id", textSchema),
      ("artifact", artifactSchema artifact), ("_metadata", metadataSchema)] := rfl

/-- Every key of an envelope is declared. -/
theorem not_mem_keys {artifact : Json} {key : String}
    (absent : Members.get? (properties (.obj (outputSchema artifact))) key = none) :
    key ∉ keys := by
  intro own
  simp only [keys, List.mem_cons, List.not_mem_nil, or_false] at own
  rcases own with rfl | rfl | rfl
  all_goals cases absent

/-- The metadata have the declared keys, with nothing inside them. -/
theorem metadataSchema_declares :
    ∀ member ∈ properties metadataSchema, member.1 ∈ Metadata.keys ∧ properties member.2 = [] := by
  decide

/-- A path inside a schema without properties is found only if it is at its end. -/
theorem eq_nil_of_walk {schema inner : Json} {path : List String} (empty : properties schema = [])
    (found : walk schema path = .found inner) : path = [] := by
  cases path with
  | nil => rfl
  | cons key rest =>
      obtain ⟨next, declared, -⟩ := walk_cons_eq_found found
      rw [empty] at declared
      cases declared

/-- A path that is found in the schema of the metadata. -/
theorem walk_metadataSchema {inner : Json} {path : List String}
    (found : walk metadataSchema path = .found inner) :
    path = [] ∨ ∃ key ∈ Metadata.keys, path = [key] := by
  cases path with
  | nil => exact .inl rfl
  | cons key rest =>
      obtain ⟨next, declared, found⟩ := walk_cons_eq_found found
      obtain ⟨own, empty⟩ := metadataSchema_declares _ (mem_of_get? declared)
      exact .inr ⟨key, own, by rw [eq_nil_of_walk empty found]⟩

/-- A schema that says nothing is replaced by one that declares no properties. -/
theorem complete_artifactSchema {artifact value : Json} (h : Complete artifact value) :
    Complete (artifactSchema artifact) value := by
  unfold artifactSchema
  split
  · exact .of_members nofun nofun
  · exact h

end Wrapped

/-! ## What an envelope holds -/

namespace Envelope

/-- The value of an envelope at a path: a field of its own, if the first key is that of one, and
otherwise what is inside the artifact. -/
inductive Holds (envelope : Envelope) : List String → Json → Prop where
  | whole : Holds envelope [] envelope.toJson
  | artifactId : Holds envelope ["artifact_id"] (.str envelope.artifactId)
  | artifact {path : List String} {value : Json}
      (inside : envelope.artifact.follow? path = some value) :
      Holds envelope ("artifact" :: path) value
  | metadata : Holds envelope ["_metadata"] envelope.metadata.toJson
  | stamp {key text : String} (declared : key ∈ Metadata.keys)
      (held : envelope.metadata.toJson.get? key = some (.str text)) :
      Holds envelope ["_metadata", key] (.str text)
  | further {key : String} {path : List String} {value : Json} (other : key ∉ Wrapped.keys)
      (inside : envelope.artifact.follow? (key :: path) = some value) :
      Holds envelope (key :: path) value

/-- Every path that is found in a schema is found in the content, with what the envelope holds. -/
def Keeps (envelope : Envelope) (schema : Members) (content : Json) : Prop :=
  ∀ path inner, Schema.field (.obj schema) path = .found inner →
    ∃ value, content.field? path = some value ∧ envelope.Holds path value

section
variable {envelope : Envelope}

/-- The declared keys of metadata hold texts. -/
theorem exists_stamp {key : String} (declared : key ∈ Metadata.keys) (metadata : Metadata) :
    ∃ text, metadata.toJson.get? key = some (.str text) := by
  simp only [Metadata.keys, List.mem_cons, List.not_mem_nil, or_false] at declared
  rcases declared with rfl | rfl | rfl | rfl | rfl | rfl
  all_goals exact ⟨_, rfl⟩

/-- A key that is not the envelope's own is looked for in the artifact. -/
theorem field?_dump_of_not_mem {key : String} (other : key ∉ Wrapped.keys) (path : List String) :
    envelope.dump.field? (key :: path) = envelope.artifact.follow? (key :: path) := by
  have absent : envelope.dump.get? key = none := by
    simp only [Wrapped.keys, List.mem_cons, List.not_mem_nil, or_false, not_or] at other
    simp [dump, Json.get?, Members.get?_cons, other]
  have missing : envelope.dump.follow? (key :: path) = none := by
    rw [Json.follow?, absent, Option.bind_none]
  exact Schema.field?_of_artifact missing envelope.isWrapped_dump envelope.get?_dump_artifact

/-- A path that is found in the schema of an artifact leads to a value in a complete artifact. -/
theorem exists_follow?_of_walk {artifact value inner : Json} {path : List String}
    (complete : Schema.Complete artifact value)
    (found : Schema.walk (Wrapped.artifactSchema artifact) path = .found inner) :
    ∃ inside, value.follow? path = some inside := by
  obtain ⟨inside, held, -⟩ := Schema.follow?_of_walk Schema.Complete.get?
    (Wrapped.complete_artifactSchema complete) found
  exact ⟨inside, held⟩

/-- A path that is found in the schema of the metadata leads to the metadata, or to one of their
texts. -/
theorem exists_holds_of_walk_metadataSchema {inner : Json} {path : List String}
    (found : Schema.walk Wrapped.metadataSchema path = .found inner) :
    ∃ value, envelope.dump.field? ("_metadata" :: path) = some value ∧
      envelope.Holds ("_metadata" :: path) value := by
  rcases Wrapped.walk_metadataSchema found with rfl | ⟨key, own, rfl⟩
  · exact ⟨_, Schema.field?_of_follow? rfl, .metadata⟩
  · obtain ⟨text, held⟩ := exists_stamp own envelope.metadata
    have followed : envelope.dump.follow? ["_metadata", key] = some (.str text) := by
      simpa [Json.follow?, get?_dump_metadata] using held
    exact ⟨_, Schema.field?_of_follow? followed, .stamp own held⟩

/-- A path that is found in the schema of an envelope itself leads to a field of the envelope. -/
theorem exists_holds_of_walk {artifact inner : Json} {key : String} {path : List String}
    (complete : Schema.Complete artifact envelope.artifact)
    (found : Schema.walk (.obj (Wrapped.outputSchema artifact)) (key :: path) = .found inner) :
    ∃ value, envelope.dump.field? (key :: path) = some value ∧
      envelope.Holds (key :: path) value := by
  obtain ⟨next, declared, found⟩ := Schema.walk_cons_eq_found found
  have member := Schema.mem_of_get? declared
  rw [Wrapped.properties_outputSchema] at member
  simp only [List.mem_cons, Prod.mk.injEq, List.not_mem_nil, or_false] at member
  rcases member with ⟨rfl, rfl⟩ | ⟨rfl, rfl⟩ | ⟨rfl, rfl⟩
  · rw [Wrapped.eq_nil_of_walk rfl found]
    exact ⟨_, Schema.field?_of_follow? rfl, .artifactId⟩
  · obtain ⟨value, held⟩ := exists_follow?_of_walk complete found
    exact ⟨value, Schema.field?_of_follow? held, .artifact held⟩
  · exact exists_holds_of_walk_metadataSchema found

/-- An artifact that has all that its schema declares is held by an envelope that keeps the schema
of an envelope. -/
theorem keeps_outputSchema {artifact : Json}
    (finite : ∀ value ∈ envelope.values, value.isFinite = true)
    (complete : Schema.Complete artifact envelope.artifact) :
    envelope.Keeps (Wrapped.outputSchema artifact) envelope.toJson := by
  intro path inner found
  have json_eq := toJson_of_isFinite finite
  rcases Schema.field_eq_found found with
    found | ⟨first, rest, schema, rfl, unknown, declared, found⟩
  · cases path with
    | nil => exact ⟨_, rfl, .whole⟩
    | cons key rest =>
        rw [json_eq]
        exact exists_holds_of_walk complete found
  · -- what the envelope does not declare is looked for in the schema of its artifact
    have other := Wrapped.not_mem_keys unknown
    obtain rfl : Wrapped.artifactSchema artifact = schema := Option.some.inj declared
    obtain ⟨value, held⟩ := exists_follow?_of_walk complete found
    rw [json_eq]
    exact ⟨value, (field?_dump_of_not_mem other rest).trans held, .further other held⟩

/-- The fields of an envelope itself are texts, so its numbers are those of its values. -/
theorem isShort_toJson_iff (finite : ∀ value ∈ envelope.values, value.isFinite = true) :
    envelope.toJson.isShort = true ↔ ∀ value ∈ envelope.values, value.isShort = true := by
  rw [toJson_of_isFinite finite]
  rw [values, List.forall_mem_cons, List.forall_mem_map (P := (Json.isShort · = true))]
  simp [dump, Metadata.toJson, Json.isShort_str]

/-- The keys of an envelope itself are plain words, so those of its artifact remain. -/
theorem unencodableKey?_dump_eq_none_iff (bare : envelope.metadata.extras = []) :
    envelope.dump.unencodableKey? = none ↔
      ∀ key ∈ envelope.artifact.allKeys, Text.unencodable? key.toList = none := by
  have low : ∀ key ∈ Wrapped.keys ++ Metadata.keys, ∀ c ∈ key.toList, c.toNat < 0xf0000 := by
    simp [Wrapped.keys, Metadata.keys]
  have plain (key : String) (member : key ∈ Wrapped.keys ++ Metadata.keys) :
      Text.unencodable? key.toList = none :=
    (Text.ofCharacters_of_lt (low key member)).unencodable?_eq_none
  have own : envelope.dump.allKeys = "artifact_id" :: "artifact" ::
      (envelope.artifact.allKeys ++ "_metadata" :: Metadata.keys) := by
    simp [dump, Metadata.toJson, bare, Json.allKeys, Json.allKeysInMembers, Metadata.keys]
  rw [Json.unencodableKey?_eq_none_iff, own]
  constructor
  · intro each key member
    exact each key (by simp [member])
  · intro each key member
    simp only [List.mem_cons, List.mem_append] at member
    rcases member with rfl | rfl | member | rfl | member
    · exact plain _ (by decide)
    · exact plain _ (by decide)
    · exact each key member
    · exact plain _ (by decide)
    · exact plain key (List.mem_append_right _ member)

/-- An envelope is carried by a result if it is not nested too deep, all its numbers are short, and
all its keys can be encoded. -/
theorem ofEnvelope_eq_ok_iff (finite : ∀ value ∈ envelope.values, value.isFinite = true)
    (result : CallResult) :
    ToolOutput.ofEnvelope envelope = .ok result ↔
      (∀ value ∈ envelope.values, value.isWritable = true ∧ value.isShort = true) ∧
        envelope.dump.unencodableKey? = none ∧
        result = ⟨envelope.toJson, [.ofText envelope.toJson.text], false⟩ := by
  have writable : envelope.isWritable = true ↔ ∀ value ∈ envelope.values, value.isWritable = true :=
    List.all_eq_true
  rw [forall₂_and, ← isShort_toJson_iff finite, ← writable, ToolOutput.ofEnvelope, toResult,
    Json.spelled]
  cases envelope.isWritable <;> cases envelope.dump.unencodableKey? <;>
    cases envelope.toJson.isShort <;> simp [Except.map, Except.mapError, eq_comm]

end

end Envelope

/-! ## Registered tools -/

/-- What a declaration says of the output is what the tool is declared with. -/
theorem ToolSchema.output_of_check {members output : Members} {schema : ToolSchema}
    (h : ToolSchema.check (.obj members) = .ok schema)
    (given : members.get? "output_schema" = some (.obj output)) : schema.output = output := by
  obtain ⟨members', same, fields⟩ := Record.object_eq_ok_iff.1 h
  cases same
  simp only [Checked.seq_eq_ok_iff, Checked.map_eq_ok_iff] at fields
  obtain ⟨_, found, ⟨_, input, ⟨_, description, ⟨name, -, rfl⟩, -, rfl⟩, -, rfl⟩, checked, rfl⟩ :=
    fields
  rw [Record.optional, given] at checked
  cases checked
  rfl

theorem ToolDeclaration.output_of_schema {declaration : ToolDeclaration} {function : ToolFunction}
    {schema : ToolSchema} (h : declaration.schema function = .ok schema)
    (unsaid : declaration.output.isVoid = true) :
    schema.output = Wrapped.outputSchema declaration.artifact := by
  unfold ToolDeclaration.schema at h
  rw [unsaid] at h
  dsimp only at h
  split at h
  all_goals
    obtain ⟨input, -, h⟩ := bind_eq_ok_iff.1 h
    split at h
    next checks =>
      cases h
      exact ToolSchema.output_of_check checks rfl
    next => cases h

namespace Toolbox

/-- A toolbox runs a function under a name, and declares an output for it. -/
structure Offers (box : Toolbox) (name : String) (function : ToolFunction) (output : Members) :
    Prop where
  runs : box.find? (.str name) = some function
  declares : ∃ schema, box.registry.lookup name = some schema ∧ schema.output = output

/-- A tool that is registered without a schema of its output offers that of an envelope. -/
theorem offers_of_register {box registered : Toolbox} {declaration : ToolDeclaration}
    {function : ToolFunction} {schema : ToolSchema}
    (h : box.register declaration function = (.ok schema, registered))
    (unsaid : declaration.output.isVoid = true) :
    registered.Offers schema.name function (Wrapped.outputSchema declaration.artifact) := by
  have registering := box.register_registering declaration function
  rw [h] at registering
  cases registering with
  | registered free declares =>
      have name_eq := ToolDeclaration.name_of_schema declares
      refine ⟨?_, schema, (Registry.lookup_withSchema ..).trans (if_pos rfl),
        ToolDeclaration.output_of_schema declares unsaid⟩
      rw [find?, Option.map_eq_none_iff] at free
      simp [find?, List.find?_append, ← name_eq, free, ToolName.isSame_self]

/-! ## Calls -/

section
variable {box : Toolbox} {name : String} {function : ToolFunction} {fresh : Fresh}
  {arguments value : Json}

/-- What is called with texts as its context stamps its output with them. -/
theorem metadata_of_texts (contextId userId traceId name : String) (fresh : Fresh) :
    Caller.metadata ⟨.str contextId, .str userId, .str traceId⟩ fresh (.str name)
      = .ok ⟨contextId, fresh.id, traceId, userId, name, fresh.now, []⟩ := rfl

/-- A call that returns a value without the keys of an envelope puts it into one. -/
theorem call_of_returns {caller : Caller} {metadata : Metadata}
    (runs : box.find? (.str name) = some function)
    (returns : function.apply fresh arguments = .ok (.value value))
    (plain : Wrapped.isWrapped value = false)
    (context : caller.metadata fresh (.str name) = .ok metadata) (artifactId : String) :
    box.call caller fresh artifactId (.str name) arguments
      = ToolOutput.ofEnvelope ⟨artifactId, value, metadata⟩ := by
  have isName : ToolName.isName (.str name) = true := rfl
  have output : box.run fresh (.str name) arguments = .ok (.value value) := by
    rw [run, isName, runs]
    simp only [returns]
    rfl
  rw [call, output]
  simp only [ToolOutput.toResult, plain, context]
  rfl

end

/-- A tool that offers an envelope of an artifact, and returns a value without the keys of an
envelope in which nothing is missing that the artifact declares, keeps what it offers if and only if
the value can be written: the call returns an envelope that holds each field of the schema, its own
or one of the value. A value cannot be written if it is nested too deep, if a whole number in it has
too many digits, or if a surrogate stands alone in one of its keys. -/
theorem call_keeps_iff {box : Toolbox} {name : String} {function : ToolFunction} {artifact : Json}
    (offers : box.Offers name function (Wrapped.outputSchema artifact)) {fresh : Fresh}
    {arguments value : Json} (returns : function.apply fresh arguments = .ok (.value value))
    (finite : value.isFinite = true) (plain : Wrapped.isWrapped value = false)
    (complete : Schema.Complete artifact value) (contextId userId traceId artifactId : String) :
    (∃ result, box.call ⟨.str contextId, .str userId, .str traceId⟩ fresh artifactId (.str name)
          arguments = .ok result ∧
        Envelope.Keeps ⟨artifactId, value,
            ⟨contextId, fresh.id, traceId, userId, name, fresh.now, []⟩⟩
          (Wrapped.outputSchema artifact) result.structured) ↔
      value.isWritable = true ∧ value.isShort = true ∧
        ∀ key ∈ value.allKeys, Text.unencodable? key.toList = none := by
  let envelope : Envelope :=
    ⟨artifactId, value, ⟨contextId, fresh.id, traceId, userId, name, fresh.now, []⟩⟩
  have called : box.call ⟨.str contextId, .str userId, .str traceId⟩ fresh artifactId (.str name)
      arguments = ToolOutput.ofEnvelope envelope :=
    call_of_returns offers.runs returns plain
      (metadata_of_texts contextId userId traceId name fresh) artifactId
  have own : ∀ v ∈ envelope.values, v.isFinite = true := List.forall_mem_singleton.2 finite
  have keys : envelope.dump.unencodableKey? = none ↔
      ∀ key ∈ value.allKeys, Text.unencodable? key.toList = none :=
    Envelope.unencodableKey?_dump_eq_none_iff rfl
  rw [called]
  constructor
  · rintro ⟨result, returned, -⟩
    obtain ⟨carried, encodable, -⟩ := (Envelope.ofEnvelope_eq_ok_iff own result).1 returned
    obtain ⟨writable, short⟩ := carried value (List.mem_singleton_self value)
    exact ⟨writable, short, keys.1 encodable⟩
  · rintro ⟨writable, short, encodable⟩
    have carried : ∀ v ∈ envelope.values, v.isWritable = true ∧ v.isShort = true :=
      List.forall_mem_singleton.2 ⟨writable, short⟩
    exact ⟨_, (Envelope.ofEnvelope_eq_ok_iff own _).2 ⟨carried, keys.2 encodable, rfl⟩,
      Envelope.keeps_outputSchema own complete⟩

/-! ### The echo tool -/

theorem standard_offers :
    standard.Offers "echo" echo (Wrapped.outputSchema echoDeclaration.artifact) := by
  obtain ⟨schema, declares⟩ := exists_echo_schema
  have registering := empty.register_registering echoDeclaration echo
  generalize registers : empty.register echoDeclaration echo = result at registering
  cases registering with
  | refused failure unfit =>
      rcases unfit with noName | taken
      · cases noName
      · cases taken
  | stranded isName free undeclared => cases declares.symm.trans undeclared
  | @registered schema free declares =>
      have offers := offers_of_register registers rfl
      obtain named : "echo" = schema.name :=
        Json.str.inj (ToolDeclaration.name_of_schema declares)
      rw [← named] at offers
      rw [standard, registers]
      exact offers

/-- A value with a text is complete for the echo tool. -/
theorem complete_echo (value : Json) :
    Schema.Complete echoDeclaration.artifact (.obj [("text", value)]) := by
  have text : Schema.Complete Wrapped.textSchema value := .of_members nofun nofun
  exact .of_members (fun _ _ => ⟨_, rfl⟩) (List.forall_mem_singleton.2 ⟨value, rfl, text⟩)

/-- The arguments of the echo tool are what it returns. -/
theorem apply_echo (fresh : Fresh) (value : Json) :
    echo.apply fresh (.obj [("text", value)]) = .ok (.value (.obj [("text", value)])) := by
  rfl

/-- The echo tool gives a text back in an envelope. -/
theorem call_keeps_iff_echo :
    ∃ result, standard.call ⟨.str "c", .str "u", .str "t"⟩ default "id" (.str "echo")
        (.obj [("text", .str "hi")]) = .ok result ∧
      ∃ value, result.structured.field? ["text"] = some value := by
  have kept := call_keeps_iff standard_offers (apply_echo default (.str "hi")) rfl rfl
    (complete_echo (.str "hi")) "c" "u" "t" "id"
  obtain ⟨result, returned, keeps⟩ := kept.2 ⟨by decide, rfl, by decide⟩
  have found : Schema.field (.obj (Wrapped.outputSchema echoDeclaration.artifact)) ["text"]
      = .found Wrapped.textSchema := by decide
  obtain ⟨value, held, -⟩ := keeps _ _ found
  exact ⟨result, returned, value, held⟩

/-- Lists of one item, in one another. -/
def nested : Nat → Json
  | 0 => .arr []
  | n + 1 => .arr [nested n]

theorem depth_nested (n : Nat) : (nested n).depth = n + 1 := by
  induction n with
  | zero => rfl
  | succ n ih => simp [nested, Json.depth, Json.itemsDepth, ih]

theorem isFinite_nested (n : Nat) : (nested n).isFinite = true := by
  induction n with
  | zero => rfl
  | succ n ih => simp [nested, Json.isFinite, Json.isFiniteItems, ih]

/-- A value that is complete, but nested too deep to be written, ends the call itself. -/
theorem call_echo_nested :
    let value := Json.obj [("text", nested 300)]
    standard.Offers "echo" echo (Wrapped.outputSchema echoDeclaration.artifact) ∧
      echo.apply default value = .ok (.value value) ∧ value.isFinite = true ∧
      Wrapped.isWrapped value = false ∧ Schema.Complete echoDeclaration.artifact value ∧
      standard.call ⟨.str "c", .str "u", .str "t"⟩ default "id" (.str "echo") value
        = .error (.unsuitable Json.tooDeepText) := by
  intro value
  have returns := apply_echo default (nested 300)
  have finite : value.isFinite = true := by
    simp [value, Json.isFinite, Json.isFiniteMembers, isFinite_nested]
  have depth : value.depth = 302 := by
    simp [value, Json.depth, Json.membersDepth, depth_nested]
  have tooDeep : value.isWritable = false := by
    rw [Json.isWritable, depth]
    rfl
  have called := call_of_returns standard_offers.runs returns rfl
    (metadata_of_texts "c" "u" "t" "echo" default) "id"
  refine ⟨standard_offers, returns, finite, rfl, complete_echo (nested 300), called.trans ?_⟩
  have unwritable : (Envelope.mk "id" value ⟨"c", (default : Fresh).id, "t", "u", "echo",
      (default : Fresh).now, []⟩).isWritable = false := by
    rw [Envelope.isWritable, Envelope.values, List.all_cons, tooDeep]
    rfl
  rw [ToolOutput.ofEnvelope, unwritable]
  rfl

end Toolbox

end CallPlan
