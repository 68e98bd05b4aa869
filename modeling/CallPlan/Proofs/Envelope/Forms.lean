import CallPlan.Proofs.Json.Finite
import CallPlan.Proofs.Json.Printing
import CallPlan.Proofs.Record.Checked
import CallPlan.Proofs.Schema.Field
import CallPlan.Proofs.Time.Reading
import CallPlan.Toolbox

/-!
# CallPlan.Proofs.Envelope.Forms

The forms of an envelope.

* Metadata are `Valid` if they can be read back. These are the metadata that a check accepts of a
  readable value (`Metadata.valid_of_check`, `Metadata.valid_iff`).
* An envelope with such metadata and a readable artifact is written in its document, its structured
  content and its text block as one value, from which it is read back (`Envelope.forms_agree`).
-/

namespace CallPlan

open Json

/-! ## The value of an envelope -/

namespace Envelope

theorem isWrapped_dump (envelope : Envelope) : Wrapped.isWrapped envelope.dump = true := rfl

theorem get?_dump_metadata (envelope : Envelope) :
    envelope.dump.get? "_metadata" = some envelope.metadata.toJson := rfl

theorem get?_dump_artifact (envelope : Envelope) :
    envelope.dump.get? "artifact" = some envelope.artifact := rfl

/-- An envelope of finite values is written as it is. -/
theorem toJson_of_isFinite {envelope : Envelope}
    (finite : ∀ value ∈ envelope.values, value.isFinite = true) :
    envelope.toJson = envelope.dump := by
  refine finiteOnly_of_isFinite ?_
  have extras : ∀ member ∈ envelope.metadata.extras, member.2.isFinite = true :=
    fun member inside => finite _ (List.mem_cons_of_mem _ (List.mem_map_of_mem inside))
  have artifact := finite _ List.mem_cons_self
  have metadata : envelope.metadata.toJson.isFinite = true := by
    rw [Metadata.toJson, isFinite, isFiniteMembers_iff]
    simpa [isFinite] using fun key value => extras (key, value)
  simp [dump, isFinite, isFiniteMembers, artifact, metadata]

end Envelope

/-! ## Valid metadata -/

/-- Metadata that can be read back: its texts are of characters, it was made at a point in time that
has a date, and its further keys are none of the declared ones and hold readable values. -/
structure Metadata.Valid (metadata : Metadata) : Prop where
  texts : ∀ text ∈ [metadata.contextId, metadata.requestId, metadata.traceId, metadata.userId,
    metadata.tool], Text.OfCharacters text.toList
  executedAt : metadata.executedAt.OnCalendar
  further : ∀ key ∈ Members.keys metadata.extras, key ∉ Metadata.keys
  extras : (obj metadata.extras).Readable

/-- An envelope that can be read back. -/
structure Envelope.Valid (envelope : Envelope) : Prop where
  artifactId : Text.OfCharacters envelope.artifactId.toList
  artifact : envelope.artifact.Readable
  metadata : envelope.metadata.Valid

namespace Metadata

/-- The members of metadata under the declared keys. -/
def declared (metadata : Metadata) : Members :=
  [("context_id", .str metadata.contextId), ("request_id", .str metadata.requestId),
    ("trace_id", .str metadata.traceId), ("user_id", .str metadata.userId),
    ("tool_name", .str metadata.tool), ("executed_at", .str metadata.executedAt.text)]

theorem toJson_eq (metadata : Metadata) :
    metadata.toJson = .obj (metadata.declared ++ metadata.extras) := rfl

variable {metadata : Metadata}

/-- What is left of the members without the declared keys are the further ones. -/
theorem Valid.filter_members (h : metadata.Valid) :
    (metadata.declared ++ metadata.extras).filter (fun (key, _) => !keys.contains key)
      = metadata.extras := by
  have own : metadata.declared.filter (fun (key, _) => !keys.contains key) = [] := rfl
  have further : ∀ member ∈ metadata.extras, (!keys.contains member.1) = true := by
    intro member inside
    simpa using h.further member.1 (List.mem_map_of_mem inside)
  rw [List.filter_append, own, List.nil_append, List.filter_eq_self.2 further]

/-- Metadata are read back from their value. -/
theorem Valid.check_toJson (h : metadata.Valid) (origin : Origin) (fresh : Fresh) :
    check origin fresh metadata.toJson = .ok metadata := by
  have era : metadata.executedAt.isCommonEra = true := decide_eq_true h.executedAt.first
  have made : Record.dateTime origin (.str metadata.executedAt.text) = .ok metadata.executedAt := by
    rw [Record.dateTime, DateTime.ofText?_text h.executedAt]
    simp [Record.commonEra, era]
  rw [toJson_eq, check, Record.object, Record.objectOr, h.filter_members]
  simp [declared, Record.optional, Record.required, Members.get?_cons, Record.text, made]

theorem low_of_mem_keys : ∀ key ∈ keys, ∀ c ∈ key.toList, c.toNat < 0xf0000 := by
  simp [keys]

theorem Valid.readable_declared (h : metadata.Valid) :
    ∀ member ∈ metadata.declared, member.2.Readable := by
  have texts := h.texts
  have made := Text.ofCharacters_of_lt (DateTime.low_text metadata.executedAt)
  simp only [List.forall_mem_cons] at texts
  obtain ⟨contextId, requestId, traceId, userId, tool, -⟩ := texts
  simp only [declared, List.forall_mem_cons]
  exact ⟨.str contextId, .str requestId, .str traceId, .str userId, .str tool, .str made, nofun⟩

theorem Valid.readable_toJson (h : metadata.Valid) : metadata.toJson.Readable := by
  rw [toJson_eq]
  cases h.extras with
  | obj distinct names each =>
      refine .obj ?_ ?_ ?_
      · have own : keys.Nodup := by decide
        rw [Members.keys, List.map_append]
        refine List.nodup_append.2 ⟨own, distinct, ?_⟩
        rintro key declared _ inside rfl
        exact h.further key inside declared
      · refine List.forall_mem_append.2 ⟨fun member inside => ?_, names⟩
        exact Text.ofCharacters_of_lt (low_of_mem_keys _ (List.mem_map_of_mem inside))
      · exact List.forall_mem_append.2 ⟨h.readable_declared, each⟩

/-! ### What is accepted is valid -/

section
variable {members : Members} {key : String}

theorem readable_of_get? {value : Json} (readable : (obj members).Readable)
    (held : members.get? key = some value) : value.Readable := by
  cases readable with
  | obj distinct names each => exact each _ (Schema.mem_of_get? held)

theorem ofCharacters_of_text {value : Json} {s : String} (readable : value.Readable)
    (checked : Record.text value = .ok s) : Text.OfCharacters s.toList := by
  rw [Record.text_eq_ok_iff] at checked
  rw [checked] at readable
  cases readable with
  | str own => exact own

theorem ofCharacters_of_optional {default s : String} (readable : (obj members).Readable)
    (own : Text.OfCharacters default.toList)
    (checked : Record.optional members key default Record.text = .ok s) :
    Text.OfCharacters s.toList := by
  rcases Record.optional_eq_ok_iff.1 checked with ⟨-, rfl⟩ | ⟨value, held, checked⟩
  · exact own
  · exact ofCharacters_of_text (readable_of_get? readable held) checked

theorem readable_filter (readable : (obj members).Readable) (keep : String × Json → Bool) :
    (obj (members.filter keep)).Readable := by
  cases readable with
  | obj distinct names each =>
      have fewer : (Members.keys (members.filter keep)).Sublist (Members.keys members) :=
        List.filter_sublist.map Prod.fst
      exact .obj (fewer.nodup distinct) (fun member inside => names _ (List.mem_filter.1 inside).1)
        fun member inside => each _ (List.mem_filter.1 inside).1

end

/-- What a check accepts of a readable value is valid, if what it takes for what is absent is. -/
theorem valid_of_check {origin : Origin} {fresh : Fresh} {given : Json}
    (checked : check origin fresh given = .ok metadata) (readable : given.Readable)
    (id : Text.OfCharacters fresh.id.toList) (now : fresh.now.OnCalendar) : metadata.Valid := by
  obtain ⟨members, rfl, fields⟩ := Record.object_eq_ok_iff.1 checked
  simp only [Checked.seq_eq_ok_iff, Checked.map_eq_ok_iff] at fields
  obtain ⟨_, executedAt, ⟨_, tool, ⟨_, userId, ⟨_, traceId, ⟨_, requestId,
    ⟨contextId, context, rfl⟩, request, rfl⟩, trace, rfl⟩, user, rfl⟩, named, rfl⟩, made, rfl⟩ :=
    fields
  have empty : Text.OfCharacters "".toList := ⟨[], rfl⟩
  obtain ⟨value, held, isText⟩ := Record.required_eq_ok_iff.1 named
  refine ⟨?_, ?_, ?_, readable_filter readable _⟩
  · simp only [List.forall_mem_cons]
    exact ⟨ofCharacters_of_optional readable empty context,
      ofCharacters_of_optional readable id request,
      ofCharacters_of_optional readable empty trace, ofCharacters_of_optional readable empty user,
      ofCharacters_of_text (readable_of_get? readable held) isText, nofun⟩
  · rcases Record.optional_eq_ok_iff.1 made with ⟨-, rfl⟩ | ⟨value, -, made⟩
    · exact now
    · exact Record.onCalendar_of_dateTime made
  · intro key inside
    obtain ⟨member, kept, rfl⟩ := List.mem_map.1 inside
    simpa using (List.mem_filter.1 kept).2

/-- Valid metadata are those that a readable value stands for, with nothing left to be filled in. -/
theorem valid_iff : metadata.Valid ↔
    ∃ given : Json, given.Readable ∧
      ∀ origin fresh, check origin fresh given = .ok metadata := by
  constructor
  · intro valid
    exact ⟨metadata.toJson, valid.readable_toJson, valid.check_toJson⟩
  · rintro ⟨given, readable, checked⟩
    have id : Text.OfCharacters (default : Fresh).id.toList := ⟨[], rfl⟩
    have now : (default : Fresh).now.OnCalendar := ⟨⟨by decide, nofun⟩, by decide⟩
    exact valid_of_check (checked .value default) readable id now

end Metadata

/-! ## Valid envelopes -/

namespace Envelope

section
variable {envelope : Envelope}

theorem Valid.readable_dump (h : envelope.Valid) : envelope.dump.Readable := by
  have distinct : Wrapped.keys.Nodup := by decide
  have words : ∀ key ∈ Wrapped.keys, ∀ c ∈ key.toList, c.toNat < 0xf0000 := by simp [Wrapped.keys]
  have artifactId : (str envelope.artifactId).Readable := .str h.artifactId
  have metadata := h.metadata.readable_toJson
  exact .record distinct words (by simpa using ⟨artifactId, h.artifact, metadata⟩)

/-- A valid envelope is written as it is. -/
theorem Valid.toJson_eq (h : envelope.Valid) : envelope.toJson = envelope.dump :=
  finiteOnly_of_isFinite h.readable_dump.isFinite

/-- An envelope is read back from its value. -/
theorem Valid.check_dump (h : envelope.Valid) (origin : Origin) (fresh : Fresh) :
    check origin fresh envelope.dump = .ok envelope := by
  have metadata := h.metadata.check_toJson origin fresh
  rw [dump, check, Record.object, Record.objectOr]
  simp [Record.required, Members.contains, Members.get?_cons, Record.text, Record.any, metadata]

/-- The values of an envelope are nested less than the envelope. -/
theorem nesting_le_dump : ∀ value ∈ envelope.values, value.nesting ≤ envelope.dump.nesting := by
  have members : ∀ member ∈ [("artifact", envelope.artifact),
      ("_metadata", envelope.metadata.toJson)], member.2.nesting < envelope.dump.nesting :=
    fun member inside => nesting_lt_of_mem (List.mem_cons_of_mem _ inside)
  simp only [List.forall_mem_cons] at members
  obtain ⟨artifact, metadata, -⟩ := members
  intro value member
  rcases List.mem_cons.1 member with rfl | member
  · exact Nat.le_of_lt artifact
  · obtain ⟨further, inside, rfl⟩ := List.mem_map.1 member
    have extra : further.2.nesting < envelope.metadata.toJson.nesting :=
      nesting_lt_of_mem (List.mem_append_right envelope.metadata.declared inside)
    exact Nat.le_of_lt (Nat.lt_trans extra metadata)

/-- An envelope that a reader with a limit takes can be written. -/
theorem isWritable_of_takes (takes : ReadLimits.strict.Takes envelope.dump.nesting) :
    envelope.isWritable = true :=
  List.all_eq_true.2 fun value inside =>
    Json.isWritable_of_takes (takes.le (nesting_le_dump value inside))

/-- An envelope is read back from its document. -/
theorem Valid.reread (h : envelope.Valid)
    (takes : ReadLimits.strict.Takes envelope.dump.nesting) (fresh : Fresh) :
    reread fresh envelope = .ok envelope := by
  have document : Document envelope.dump envelope.document.toList :=
    document_of_written (by simp [written]) h.readable_dump
  have read := Json.readStrict?_document document h.readable_dump takes
  rw [Envelope.reread, document?, if_pos (isWritable_of_takes takes)]
  simp only [Option.map_some, Option.getD_some, parse, Record.document, read]
  exact h.check_dump .text fresh

end

namespace Sample

/-- Metadata from the zone two hours ahead, with a further key. -/
def stamp : Metadata :=
  ⟨"c", "q", "", "u", "lookup", ⟨1704067200000001, some 120⟩, [("skill_id", .str "s")]⟩

/-- An envelope around an artifact with a text to be escaped. -/
def report : Envelope :=
  ⟨"r1", .obj [("title", .str "a \x22 \x7d"), ("rows", .arr [.num (.int (-3)), .arr []])], stamp⟩

end Sample

end Envelope

end CallPlan
