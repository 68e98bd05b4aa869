import CallPlan.Proofs.Planner.Reply

/-!
# CallPlan.Proofs.Plan.Document

A plan that is given as a value, and as a text of this value.

* An object is checked alike in both ways (`Plan.check_obj`), so it gives the same plan or the same
  issues. What is no object is refused in both, with an issue that says which way it came.
* A plan is given back by its value, and by each text of it.
-/

namespace CallPlan

open Json

namespace Plan

section
variable {value : Json} {text : String}

/-- A document is checked as the value that is written in it. -/
theorem parse_document (document : Document value text.toList) (readable : value.Readable)
    (takes : ReadLimits.strict.Takes value.nesting) : parse text = check .text value := by
  have own : Text.OfCharacters text.toList :=
    (Extract.crosses_document document (Nat.le_refl 1)).own
  rw [parse, own.isPaired, Json.readStrict?_document document readable takes]
  rfl

/-- Only the body of a request names a call differently that is no object. -/
theorem check_obj (members : Members) :
    check .text (.obj members) = check .value (.obj members) := by
  have kind : callKind .text = callKind .value := rfl
  simp only [check, checkToolsFields, kind]

theorem check_of_not_obj {origin : Origin} (noObject : ∀ members, value ≠ .obj members) :
    check origin value =
      if origin = .text then .issue .dictType else .issue .modelAttributesType := by
  cases value with
  | obj members => exact absurd rfl (noObject members)
  | _ => rfl

theorem ofGiven_of_not_str (noText : ∀ s, value ≠ .str s) :
    ofGiven value = check .value value := by
  cases value with
  | str s => exact absurd rfl (noText s)
  | _ => rfl

end

/-- What a plan given as a value and as a text of this value comes to. -/
structure Agrees (value : Json) (text : String) : Prop where
  object : ∀ members, value = .obj members → ofGiven (.str text) = ofGiven value
  /-- In a text an object is missing. -/
  noObject : (∀ members, value ≠ .obj members) → ofGiven (.str text) = .issue .dictType
  /-- In a value, anything with fields. A text is taken for a document. -/
  noFields : (∀ members, value ≠ .obj members) → (∀ s, value ≠ .str s) →
    ofGiven value = .issue .modelAttributesType

theorem agrees_document {value : Json} {text : String} (document : Document value text.toList)
    (readable : value.Readable) (takes : ReadLimits.strict.Takes value.nesting) :
    Agrees value text where
  object := by
    rintro members rfl
    calc ofGiven (.str text)
      _ = check .text (.obj members) := parse_document document readable takes
      _ = check .value (.obj members) := check_obj members
  noObject other := by
    calc ofGiven (.str text)
      _ = check .text value := parse_document document readable takes
      _ = .issue .dictType := check_of_not_obj other
  noFields other noText := by
    calc ofGiven value
      _ = check .value value := ofGiven_of_not_str noText
      _ = .issue .modelAttributesType := check_of_not_obj other

theorem ofGiven_toJson (plan : Plan) : ofGiven plan.toJson = .ok plan := by
  have noText : ∀ s, plan.toJson ≠ .str s := by
    cases plan <;> exact nofun
  rw [ofGiven_of_not_str noText, check_toJson]

theorem ofGiven_document {plan : Plan} {text : String} (document : Document plan.toJson text.toList)
    (readable : plan.Readable) (takes : ReadLimits.strict.Takes plan.toJson.nesting) :
    ofGiven (.str text) = .ok plan := by
  calc ofGiven (.str text)
    _ = check .text plan.toJson := parse_document document readable.toJson takes
    _ = .ok plan := check_toJson .text plan

/-- A document gives, as a text, what its value gives, and a plan is given back by its value and by
every document of it. -/
theorem ofGiven_agrees :
    (∀ {value : Json} {text : String}, Document value text.toList → value.Readable →
        ReadLimits.strict.Takes value.nesting → Agrees value text) ∧
      ∀ plan : Plan, ofGiven plan.toJson = .ok plan ∧
        ∀ {text : String}, Document plan.toJson text.toList → plan.Readable →
          ReadLimits.strict.Takes plan.toJson.nesting → ofGiven (.str text) = .ok plan :=
  ⟨agrees_document, fun plan => ⟨ofGiven_toJson plan, ofGiven_document⟩⟩

/-- A document without a tag, and a plan with a brace in a text of it. -/
theorem ofGiven_agrees_braced :
    let untagged := obj [("content", str "a \x7d")]
    let plan := Plan.direct "a \x7d"
    ofGiven (.str untagged.asciiText) = ofGiven untagged ∧
      ofGiven (.str plan.toJson.asciiText) = .ok plan := by
  intro untagged plan
  have own : Text.OfCharacters "a \x7d".toList := Text.ofCharacters_of_lt (by simp)
  have readable : untagged.Readable := by
    have distinct : ["content"].Nodup := by decide
    have words : ∀ key ∈ ["content"], ∀ c ∈ key.toList, c.toNat < 0xf0000 := by simp
    have text : (str "a \x7d").Readable := .str own
    exact .record distinct words (by simpa using text)
  have takes : ∀ value ∈ [untagged, plan.toJson], ReadLimits.strict.Takes value.nesting := by
    rintro value member most ⟨⟩
    revert value
    decide
  have document : ∀ {value : Json}, value.Readable → Document value value.asciiText.toList :=
    document_of_written (by simp [written])
  have planReadable : plan.Readable := own
  exact ⟨(ofGiven_agrees.1 (document readable) readable (takes _ (by decide))).object _ rfl,
    (ofGiven_agrees.2 plan).2 (document planReadable.toJson) planReadable (takes _ (by decide))⟩

/-- The two ways part on what is no object, and on a string with a surrogate that stands alone: it
is a text of a value, but no text of a document holds it. -/
theorem ofGiven_text_parts :
    let number := num (.int 5)
    let lone := String.ofList (Text.ofPoint 0xd800)
    let unpaired := (Plan.direct lone).toJson
    Document number number.asciiText.toList ∧ number.Readable ∧
      ReadLimits.strict.Takes number.nesting ∧
      ofGiven (.str number.asciiText) = .issue .dictType ∧
      ofGiven number = .issue .modelAttributesType ∧
      ofGiven (.str unpaired.asciiText) = .issue .jsonInvalid ∧
      ofGiven unpaired = .ok (.direct lone) := by
  intro number lone unpaired
  have readable : number.Readable := .int (by decide)
  have takes : ReadLimits.strict.Takes number.nesting := fun _ _ => Nat.zero_le _
  refine ⟨document_of_written (by simp [written]) readable, readable, takes, ?_, ?_, ?_, ?_⟩
  all_goals decide +kernel

end Plan

end CallPlan
