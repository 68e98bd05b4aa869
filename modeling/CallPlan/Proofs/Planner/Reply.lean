import CallPlan.Planner
import CallPlan.Proofs.Json.Printing
import CallPlan.Proofs.Json.Reading
import CallPlan.Proofs.Planner.Braces
import CallPlan.Proofs.Record.Checked

/-!
# CallPlan.Proofs.Planner.Reply

What a planner makes of a model's reply.

* A plan written as JSON is checked as that plan (`Plan.check_toJson`).
-/

namespace CallPlan

open Json

/-! ## Checking the JSON value of a plan -/

theorem PlannedCall.objectOr_toJson (kind : IssueKind) (call : PlannedCall) :
    Record.objectOr kind checkFields call.toJson = .ok call := by
  simp [toJson, Record.objectOr, checkFields, Record.required, Record.optional, Members.get?_cons,
    Record.text, Record.members]

namespace Plan

theorem checkTag_tag (ms : Members) (tag : String) :
    checkTag (("type", .str tag) :: ms) tag = .ok () := by
  simp [checkTag, Record.optional, Members.get?_cons, Record.word]

theorem checkDirectFields_toJson (content : String) :
    checkDirectFields [("type", .str directTag), ("content", .str content)] = .ok content := by
  rw [checkDirectFields, checkTag_tag]
  simp [Record.required, Members.get?_cons, Record.text]

theorem checkToolsFields_toJson (origin : Origin) (plan : ToolCalls) :
    checkToolsFields origin [("type", .str toolsTag), ("reasoning", .str plan.reasoning),
      ("calls", .arr (plan.calls.map PlannedCall.toJson))] = .ok plan := by
  have calls := Record.itemsFrom_map (PlannedCall.objectOr_toJson (callKind origin)) 0 plan.calls
  rw [checkToolsFields, checkTag_tag]
  simp [Record.optional, Members.get?_cons, Record.text, Record.list, calls]

/-- The JSON value of a plan is checked as this plan. -/
theorem check_toJson (origin : Origin) (plan : Plan) : check origin plan.toJson = .ok plan := by
  cases plan with
  | direct content =>
      have fields := checkDirectFields_toJson content
      simp [toJson, check, Members.get?_cons, fields]
  | tools plan =>
      have fields := checkToolsFields_toJson origin plan
      have other : toolsTag ≠ directTag := by decide
      simp [toJson, check, Members.get?_cons, fields, other]

end Plan

/-! ## Readable plans -/

/-- A plan whose texts are of characters, and whose arguments are readable. -/
def Plan.Readable : Plan → Prop
  | .direct content => Text.OfCharacters content.toList
  | .tools plan => Text.OfCharacters plan.reasoning.toList ∧
      ∀ call ∈ plan.calls, Text.OfCharacters call.tool.toList ∧ (obj call.arguments).Readable

theorem PlannedCall.readable_toJson {call : PlannedCall} (name : Text.OfCharacters call.tool.toList)
    (arguments : (obj call.arguments).Readable) : call.toJson.Readable := by
  have distinct : ["tool_name", "arguments"].Nodup := by decide
  have words : ∀ key ∈ ["tool_name", "arguments"], ∀ c ∈ key.toList, c.toNat < 0xf0000 := by simp
  have tool : (str call.tool).Readable := .str name
  exact .record distinct words (by simpa using ⟨tool, arguments⟩)

theorem Plan.Readable.toJson {plan : Plan} (h : plan.Readable) : plan.toJson.Readable := by
  have low : ∀ tag ∈ [directTag, toolsTag], ∀ c ∈ tag.toList, c.toNat < 0xf0000 := by
    simp [directTag, toolsTag]
  cases plan with
  | direct content =>
      have distinct : ["type", "content"].Nodup := by decide
      have words : ∀ key ∈ ["type", "content"], ∀ c ∈ key.toList, c.toNat < 0xf0000 := by simp
      have tag : (str directTag).Readable :=
        .str (Text.ofCharacters_of_lt (low directTag (by decide)))
      have text : (str content).Readable := .str h
      exact .record distinct words (by simpa using ⟨tag, text⟩)
  | tools plan =>
      obtain ⟨own, each⟩ := h
      have distinct : ["type", "reasoning", "calls"].Nodup := by decide
      have words : ∀ key ∈ ["type", "reasoning", "calls"],
          ∀ c ∈ key.toList, c.toNat < 0xf0000 := by simp
      have tag : (str toolsTag).Readable :=
        .str (Text.ofCharacters_of_lt (low toolsTag (by decide)))
      have reasoning : (str plan.reasoning).Readable := .str own
      have calls : (arr (plan.calls.map PlannedCall.toJson)).Readable := by
        refine .arr fun value member => ?_
        obtain ⟨call, inside, rfl⟩ := List.mem_map.1 member
        exact PlannedCall.readable_toJson (each call inside).1 (each call inside).2
      exact .record distinct words (by simpa using ⟨tag, reasoning, calls⟩)

/-! ## Reading a reply -/

namespace Planner

variable {plan : Plan} {text : String}

theorem parse_text {cs : List Char} (isText : IsText plan.toJson cs)
    (own : Text.OfCharacters cs) (readable : plan.toJson.Readable)
    (takes : ReadLimits.strict.Takes plan.toJson.nesting) :
    Plan.parse (String.ofList cs) = .ok plan := by
  have cs_eq : (String.ofList cs).toList = cs := String.toList_ofList
  have paired : Text.isPaired (String.ofList cs) = true :=
    Text.OfCharacters.isPaired (cs_eq.symm ▸ own)
  have document : Document plan.toJson (String.ofList cs).toList := cs_eq.symm ▸ isText.document
  rw [Plan.parse, paired, Json.readStrict?_document document readable takes]
  exact Plan.check_toJson .text plan

theorem readPlan_document (document : Document plan.toJson text.toList)
    (noBlock : ¬ Extract.HasBlock text.toList) (readable : plan.toJson.Readable)
    (takes : ReadLimits.strict.Takes plan.toJson.nesting) :
    readPlan (.str text) = .ok plan := by
  obtain ⟨members, json_eq⟩ : ∃ members, plan.toJson = .obj members := by
    cases plan <;> exact ⟨_, rfl⟩
  rw [json_eq] at document
  obtain ⟨found, isText, own, found_eq⟩ := Extract.object_document document noBlock
  rw [← json_eq] at isText
  have parsed := parse_text isText own readable takes
  have located : findDocument (.str text) = .ok (String.ofList found) := by
    rw [findDocument, found_eq]
    rfl
  rw [readPlan, located]
  simp only [bind, Except.bind, parsed]
  rfl

end Planner

/-- A model that writes a plan as a JSON document has made this plan: however the document is
written, with whatever blanks and escapes, if nothing in it stands between two fences. -/
theorem Model.plan_document {σ : Type} (model : Model σ) (request : Json) (registry : Registry)
    {world world' : σ} {plan : Plan} {instructions text : String} (readable : plan.Readable)
    (takes : ReadLimits.strict.Takes plan.toJson.nesting)
    (document : Document plan.toJson text.toList) (noBlock : ¬ Extract.HasBlock text.toList)
    (asked : Prompt.withTools registry = .ok instructions)
    (completes : model.complete (.str instructions) request true world
      = (.ok (.str text), world')) :
    model.plan request registry world = (.ok plan, world') := by
  simp only [Model.plan, asked, completes]
  have understood := Planner.readPlan_document document noBlock readable.toJson takes
  exact congrArg (·, world') understood

/-- A model that writes the same text whatever it is asked. -/
def Model.writing (text : String) : Model Unit := ⟨fun _ _ _ world => (.ok (.str text), world)⟩

/-- Braces and quotes in a string, and a fence that stands alone, do no harm. -/
theorem Model.plan_document_quoting :
    let plan := Plan.tools ⟨"One ``` alone", [⟨"echo", [("text", .str "a \x7d \x22 b")]⟩]⟩
    (Model.writing plan.toJson.asciiText).plan (.str "hi") .empty () = (.ok plan, ()) := by
  intro plan
  have low : ∀ s ∈ ["One ``` alone", "echo", "text", "a \x7d \x22 b"],
      ∀ c ∈ s.toList, c.toNat < 0xf0000 := by simp
  have own : ∀ s ∈ ["One ``` alone", "echo", "text", "a \x7d \x22 b"], Text.OfCharacters s.toList :=
    fun s member => Text.ofCharacters_of_lt (low s member)
  have arguments : (obj [("text", str "a \x7d \x22 b")]).Readable := by
    have distinct : ["text"].Nodup := by decide
    have words : ∀ key ∈ ["text"], ∀ c ∈ key.toList, c.toNat < 0xf0000 := by simp
    have text : (str "a \x7d \x22 b").Readable := .str (own _ (by decide))
    exact .record distinct words (by simpa using text)
  have readable : plan.Readable :=
    ⟨own _ (by decide), List.forall_mem_singleton.2 ⟨own _ (by decide), arguments⟩⟩
  have takes : ReadLimits.strict.Takes plan.toJson.nesting := by
    rintro most ⟨⟩
    decide
  have document : Document plan.toJson plan.toJson.asciiText.toList :=
    document_of_written (by simp [written]) readable.toJson
  have noBlock : Extract.fenced? plan.toJson.asciiText.toList = none := by decide +kernel
  exact Model.plan_document _ _ _ readable takes document
    (Extract.fenced?_eq_none_iff.1 noBlock) rfl rfl

/-- A document of a readable plan is not understood if what stands between two fences of a text in
it is taken for the document. -/
theorem Model.plan_misread :
    let plan := Plan.direct "Use ```print()``` please"
    plan.Readable ∧ ReadLimits.strict.Takes plan.toJson.nesting ∧
      Document plan.toJson plan.toJson.asciiText.toList ∧
      (Model.writing plan.toJson.asciiText).plan (.str "hi") .empty () ≠ (.ok plan, ()) := by
  intro plan
  have low : ∀ c ∈ "Use ```print()``` please".toList, c.toNat < 0xf0000 := by simp
  have readable : plan.Readable := Text.ofCharacters_of_lt low
  have takes : ReadLimits.strict.Takes plan.toJson.nesting := by
    rintro most ⟨⟩
    decide
  refine ⟨readable, takes, document_of_written (by simp [written]) readable.toJson, ?_⟩
  intro understood
  have refused : (Planner.readPlan (.str plan.toJson.asciiText)).toOption = none := by
    decide +kernel
  have result : Planner.readPlan (.str plan.toJson.asciiText) = .ok plan :=
    congrArg Prod.fst understood
  rw [result] at refused
  cases refused

end CallPlan
