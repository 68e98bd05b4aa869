import CallPlan.Validation
import CallPlan.Proofs.FirstFailure
import CallPlan.Proofs.Schema.Field

/-!
# CallPlan.Proofs.Validation.Fault

What may be wrong with one call of a plan, said without the check that finds it.

* `Validation.Admissible` says what lets a text that was meant as a reference stand where it does;
  `Validation.LeafFault` says which of the four demands it misses first, and with which cause.
* `Validation.LeafObstacle` says what keeps the demands from being looked at: an index that is too
  long, a field whose schema is no object, a listed type that is too long.
* The check of a text passes only what is admissible, and reports exactly the fault of the text, or
  the obstacle (`checkText_eq_ok`, `checkText_eq_violation_iff`, `checkText_eq_unchecked_iff`).
* A call is checked leaf by leaf (`checkCall_eq_forM`), and `checkLeaf` reports what is wrong with
  the leaves that were meant as references (`checkLeaf_eq_error_iff`).
-/

namespace CallPlan

namespace Reference

theorem raw_of_parse {text : String} {reference : Reference}
    (h : parse text = .ok (some reference)) : reference.raw = text := by
  unfold parse at h
  split at h
  · cases h
  · split at h
    · cases h
    · split at h
      · cases h
      · cases h
        rfl

theorem parse_of_not_meant {text : String} (h : looksLike text ≠ true) : parse text = .ok none := by
  have none : split? text.toList = none := by
    simpa [looksLike] using h
  simp [parse, none]

theorem meant_of_parse {text : String} {reference : Reference}
    (h : parse text = .ok (some reference)) : looksLike text = true := by
  cases meant : looksLike text with
  | true => rfl
  | false =>
      rw [parse_of_not_meant (by simp [meant])] at h
      cases h

/-- The index of a text that begins like a reference has no more digits than are converted. -/
def ShortIndex (text : String) : Prop :=
  ∀ digits rest, split? text.toList = some (digits, rest) → digits.length ≤ Text.digitLimit

theorem ShortIndex.of_split {text : String} {digits rest : List Char}
    (h : split? text.toList = some (digits, rest)) (short : digits.length ≤ Text.digitLimit) :
    ShortIndex text := by
  intro digits' rest' h'
  rw [h] at h'
  cases h'
  exact short

theorem ShortIndex.parse_ne_error {text : String} (h : ShortIndex text) (long : LongIndex) :
    parse text ≠ .error long := by
  intro hparse
  unfold parse at hparse
  split at hparse
  · cases hparse
  · next digits rest hsplit =>
      split at hparse
      · cases hparse
      · split at hparse
        · next hlong => exact absurd (h digits rest hsplit) (Nat.not_le_of_lt hlong)
        · cases hparse

end Reference

namespace Validation

/-! ### Faults of a text -/

/-- Declared types conflict if both sides declare some, and not the same. -/
def Conflict (declared expected : Option TypeSet) : Prop :=
  ∃ found wanted, declared = some found ∧ expected = some wanted ∧ ¬ found.Same wanted

/-- Declared types agree if those of both sides can be told and do not conflict. -/
def Agree (declared expected : Except LongNumber (Option TypeSet)) : Prop :=
  ∃ found wanted, declared = .ok found ∧ expected = .ok wanted ∧ ¬ Conflict found wanted

/-- A text may stand at a place of the arguments of a call: it is a reference to an earlier call,
the tool of that call declares the field, and the types of the field agree with those of the
argument. -/
inductive Admissible (registry : Registry) (plan : ToolCalls) (index : Nat) (input : Json)
    (place : Location) (text : String) : Prop where
  | intro {reference : Reference} {source : PlannedCall} {field : Json}
      (parsed : Reference.parse text = .ok (some reference))
      (earlier : reference.source < index)
      (called : plan.calls[reference.source]? = some source)
      (declared : Schema.field (outputSchema registry source.tool) reference.path = .found field)
      (agree : Agree (TypeSet.ofDeclared? (field.get? "type")) (Schema.typeAt input place)) :
      Admissible registry plan index input place text

/-- What is wrong with a text that was meant as a reference: the first of four demands that it
misses. -/
inductive LeafFault (registry : Registry) (plan : ToolCalls) (index : Nat) (input : Json)
    (place : Location) (text : String) : ViolationCause → Prop where
  /-- It is no reference. -/
  | malformed (parsed : Reference.parse text = .ok none) :
      LeafFault registry plan index input place text .malformed
  /-- It does not refer to an earlier call. -/
  | outOfBounds {reference : Reference} (parsed : Reference.parse text = .ok (some reference))
      (late : index ≤ reference.source) :
      LeafFault registry plan index input place text (.outOfBounds reference.source)
  /-- The tool of the earlier call does not declare the field. -/
  | fieldNotFound {reference : Reference} {source : PlannedCall} {segment : String}
      {siblings : List String} (parsed : Reference.parse text = .ok (some reference))
      (earlier : reference.source < index)
      (called : plan.calls[reference.source]? = some source)
      (missing : Schema.field (outputSchema registry source.tool) reference.path
        = .missing segment siblings) :
      LeafFault registry plan index input place text
        (.fieldNotFound source.tool segment (Text.sorted siblings))
  /-- The declared types conflict. -/
  | typeMismatch {reference : Reference} {source : PlannedCall} {field : Json}
      {found wanted : TypeSet} (parsed : Reference.parse text = .ok (some reference))
      (earlier : reference.source < index)
      (called : plan.calls[reference.source]? = some source)
      (declared : Schema.field (outputSchema registry source.tool) reference.path = .found field)
      (types : TypeSet.ofDeclared? (field.get? "type") = .ok (some found))
      (expected : Schema.typeAt input place = .ok (some wanted))
      (differ : ¬ found.Same wanted) :
      LeafFault registry plan index input place text
        (.typeMismatch wanted.display found.display)

/-- Why the check of a text that was meant as a reference is given up: the demands before are met,
and the next one cannot be looked at. -/
inductive LeafObstacle (registry : Registry) (plan : ToolCalls) (index : Nat) (input : Json)
    (place : Location) (text : String) : Unchecked → Prop where
  /-- Its index is too long to be converted. -/
  | longIndex {long : LongIndex} (parsed : Reference.parse text = .error long) :
      LeafObstacle registry plan index input place text (.longIndex long)
  /-- A schema on the way to the field lists a type that is too long to be written. -/
  | longWay {reference : Reference} {source : PlannedCall} {long : LongNumber}
      (parsed : Reference.parse text = .ok (some reference)) (earlier : reference.source < index)
      (called : plan.calls[reference.source]? = some source)
      (way : Schema.field (outputSchema registry source.tool) reference.path = .longType long) :
      LeafObstacle registry plan index input place text (.longType long)
  /-- The schema of the field is no object, and cannot be asked for its type. -/
  | fieldSchema {reference : Reference} {source : PlannedCall} {field : Json}
      (parsed : Reference.parse text = .ok (some reference)) (earlier : reference.source < index)
      (called : plan.calls[reference.source]? = some source)
      (declared : Schema.field (outputSchema registry source.tool) reference.path = .found field)
      (odd : ∀ members, field ≠ .obj members) :
      LeafObstacle registry plan index input place text (.fieldSchema field)
  /-- A type that the field or the argument lists is too long to be written. -/
  | longType {reference : Reference} {source : PlannedCall} {members : Members} {long : LongNumber}
      (parsed : Reference.parse text = .ok (some reference)) (earlier : reference.source < index)
      (called : plan.calls[reference.source]? = some source)
      (declared : Schema.field (outputSchema registry source.tool) reference.path
        = .found (.obj members))
      (untold : TypeSet.ofDeclared? (Members.get? members "type") = .error long ∨
        Schema.typeAt input place = .error long) :
      LeafObstacle registry plan index input place text (.longType long)

/-- Why a text that was meant as a reference is rejected: for its fault, or at an obstacle. -/
inductive LeafFlaw (registry : Registry) (plan : ToolCalls) (index : Nat) (input : Json)
    (place : Location) (text : String) : Rejection → Prop where
  | fault {cause : ViolationCause}
      (fault : LeafFault registry plan index input place text cause) :
      LeafFlaw registry plan index input place text (.violation ⟨index, place.text, text, cause⟩)
  | obstacle {cause : Unchecked}
      (obstacle : LeafObstacle registry plan index input place text cause) :
      LeafFlaw registry plan index input place text (.unchecked cause)

/-! ### The check of types -/

theorem typeAt_eq_ofDeclared? {input : Json} {place : Location} {types : TypeSet}
    (h : Schema.typeAt input place = .ok (some types)) :
    ∃ declared, TypeSet.ofDeclared? declared = .ok (some types) := by
  induction place generalizing input with
  | nil => exact ⟨_, h⟩
  | cons step rest ih =>
      rw [Schema.typeAt] at h
      split at h
      · exact ih h
      · cases h

section
variable {index : Nat} {place : Location} {reference : Reference} {field input : Json}

/-- The check of the types of a field whose schema is an object. -/
theorem checkTypes_obj {members : Members} :
    checkTypes index place reference (.obj members) input =
      match TypeSet.ofDeclared? (Members.get? members "type"), Schema.typeAt input place with
      | .error long, _ | .ok _, .error long => .error (.unchecked (.longType long))
      | .ok (some found), .ok (some expected) =>
        if found = expected then .ok ()
        else
          .error (.violation ⟨index, place.text, reference.raw,
            .typeMismatch expected.display found.display⟩)
      | .ok _, .ok _ => .ok () := rfl

theorem checkTypes_of_odd (odd : ∀ members, field ≠ .obj members) :
    checkTypes index place reference field input = .error (.unchecked (.fieldSchema field)) := by
  cases field with
  | obj members => exact absurd rfl (odd members)
  | _ => rfl

theorem ofDeclared?_of_odd (odd : ∀ members, field ≠ .obj members) :
    TypeSet.ofDeclared? (field.get? "type") = .ok none := by
  cases field with
  | obj members => exact absurd rfl (odd members)
  | _ => rfl

/-- Types pass if and only if they agree, and are those of a schema that is an object. -/
theorem checkTypes_eq_ok_iff :
    checkTypes index place reference field input = .ok () ↔
      (∃ members, field = .obj members) ∧
        Agree (TypeSet.ofDeclared? (field.get? "type")) (Schema.typeAt input place) := by
  by_cases object : ∃ members, field = .obj members
  · obtain ⟨members, rfl⟩ := object
    rw [checkTypes_obj, Json.get?]
    split
    · next told => simp [Agree, told]
    · next told => simp [Agree, told]
    · next found wanted told told' =>
        obtain ⟨declared, hdeclared⟩ := typeAt_eq_ofDeclared? told'
        have same := TypeSet.eq_iff told hdeclared
        by_cases h : found = wanted
        · simp [h, Agree, Conflict, told, told', h ▸ same.1 h]
        · simp [h, Agree, Conflict, told, told', ← same]
    · next found wanted none told told' =>
        refine iff_of_true rfl ⟨⟨members, rfl⟩, found, wanted, told, told', ?_⟩
        rintro ⟨types, types', rfl, rfl, -⟩
        exact none types types' rfl rfl
  · have odd : ∀ members, field ≠ .obj members := fun members e => object ⟨members, e⟩
    simp [checkTypes_of_odd odd, object]

theorem checkTypes_eq_violation_iff {v : Violation} :
    checkTypes index place reference field input = .error (.violation v) ↔
      ∃ found wanted, TypeSet.ofDeclared? (field.get? "type") = .ok (some found) ∧
        Schema.typeAt input place = .ok (some wanted) ∧ ¬ found.Same wanted ∧
        v = ⟨index, place.text, reference.raw, .typeMismatch wanted.display found.display⟩ := by
  by_cases object : ∃ members, field = .obj members
  · obtain ⟨members, rfl⟩ := object
    rw [checkTypes_obj, Json.get?]
    split
    · next told => simp [told]
    · next told => simp [told]
    · next found wanted told told' =>
        obtain ⟨declared, hdeclared⟩ := typeAt_eq_ofDeclared? told'
        have same := TypeSet.eq_iff told hdeclared
        by_cases h : found = wanted
        · simp [h, told, told', h ▸ same.1 h]
        · simp [h, told, told', ← same, eq_comm]
    · next none told told' =>
        refine iff_of_false nofun ?_
        rintro ⟨types, types', found, wanted, -⟩
        rw [told] at found
        rw [told'] at wanted
        exact none types types' (Except.ok.inj found) (Except.ok.inj wanted)
  · have odd : ∀ members, field ≠ .obj members := fun members e => object ⟨members, e⟩
    simp [checkTypes_of_odd odd, ofDeclared?_of_odd odd]

/-- The check of the types of an object is given up where those of one side cannot be told. -/
theorem checkTypes_obj_eq_unchecked_iff {members : Members} {cause : Unchecked} :
    checkTypes index place reference (.obj members) input = .error (.unchecked cause) ↔
      ∃ long, cause = .longType long ∧
        (TypeSet.ofDeclared? (Members.get? members "type") = .error long ∨
          Schema.typeAt input place = .error long) := by
  rw [checkTypes_obj]
  split
  · next long told =>
      refine ⟨fun h => ?_, fun ⟨_, e, _⟩ => by rw [e]⟩
      cases h
      exact ⟨long, rfl, .inl told⟩
  · next long _ told' =>
      refine ⟨fun h => ?_, fun ⟨_, e, _⟩ => by rw [e]⟩
      cases h
      exact ⟨long, rfl, .inr told'⟩
  · next told told' =>
      rw [told, told']
      split <;> simp
  · next told told' => simp [told, told']

theorem checkTypes_eq_unchecked_iff {cause : Unchecked} :
    checkTypes index place reference field input = .error (.unchecked cause) ↔
      ((∀ members, field ≠ .obj members) ∧ cause = .fieldSchema field) ∨
        ∃ members long, field = .obj members ∧ cause = .longType long ∧
          (TypeSet.ofDeclared? (Members.get? members "type") = .error long ∨
            Schema.typeAt input place = .error long) := by
  by_cases object : ∃ members, field = .obj members
  · obtain ⟨members, rfl⟩ := object
    simp [checkTypes_obj_eq_unchecked_iff]
  · have odd : ∀ members, field ≠ .obj members := fun members e => object ⟨members, e⟩
    simp [checkTypes_of_odd odd, odd, eq_comm]

end

/-! ### The check of a text -/

section
variable {registry : Registry} {plan : ToolCalls} {index : Nat} {input : Json} {place : Location}
  {text : String}

/-- A reference to an earlier call of a plan is checked against the output of its tool. -/
theorem checkReference_of_lt {reference : Reference} {source : PlannedCall}
    (earlier : reference.source < index) (called : plan.calls[reference.source]? = some source) :
    checkReference registry plan index input place reference =
      match Schema.field (outputSchema registry source.tool) reference.path with
      | .missing segment siblings =>
        .error (.violation ⟨index, place.text, reference.raw,
          .fieldNotFound source.tool segment (Text.sorted siblings)⟩)
      | .longType long => .error (.unchecked (.longType long))
      | .found field => checkTypes index place reference field input := by
  unfold checkReference
  rw [if_pos earlier, called]
  rfl

/-- A text passes only if it is admissible. -/
theorem checkText_eq_ok (within : index ≤ plan.calls.length)
    (h : checkText registry plan index input place text = .ok ()) :
    Admissible registry plan index input place text := by
  unfold checkText at h
  split at h
  · cases h
  · cases h
  · next reference hparse =>
      by_cases earlier : reference.source < index
      · have called := List.getElem?_eq_getElem (Nat.lt_of_lt_of_le earlier within)
        rw [checkReference_of_lt earlier called] at h
        split at h
        · cases h
        · cases h
        · next field hfield =>
            exact .intro hparse earlier called hfield (checkTypes_eq_ok_iff.1 h).2
      · rw [checkReference, if_neg earlier] at h
        cases h

/-- The violation of a text is its fault. -/
theorem checkText_eq_violation_iff (within : index ≤ plan.calls.length) {v : Violation} :
    checkText registry plan index input place text = .error (.violation v) ↔
      ∃ cause, LeafFault registry plan index input place text cause ∧
        v = ⟨index, place.text, text, cause⟩ := by
  constructor
  · intro h
    unfold checkText at h
    split at h
    · cases h
    · next hparse =>
        cases h
        exact ⟨_, .malformed hparse, rfl⟩
    · next reference hparse =>
        have raw := Reference.raw_of_parse hparse
        by_cases earlier : reference.source < index
        · have called := List.getElem?_eq_getElem (Nat.lt_of_lt_of_le earlier within)
          rw [checkReference_of_lt earlier called] at h
          split at h
          · next segment siblings hfield =>
              cases h
              exact ⟨_, .fieldNotFound hparse earlier called hfield, by rw [raw]⟩
          · cases h
          · next field hfield =>
              obtain ⟨found, wanted, types, expected, differ, rfl⟩ :=
                checkTypes_eq_violation_iff.1 h
              exact ⟨_, .typeMismatch hparse earlier called hfield types expected differ,
                by rw [raw]⟩
        · rw [checkReference, if_neg earlier] at h
          cases h
          exact ⟨_, .outOfBounds hparse (Nat.le_of_not_lt earlier), by rw [raw]⟩
  · rintro ⟨cause, fault, rfl⟩
    unfold checkText
    cases fault with
    | malformed parsed => rw [parsed]
    | outOfBounds parsed late =>
        rw [parsed]
        dsimp only
        rw [checkReference, if_neg (Nat.not_lt_of_le late), Reference.raw_of_parse parsed]
    | fieldNotFound parsed earlier called missing =>
        rw [parsed]
        dsimp only
        rw [checkReference_of_lt earlier called, missing, ← Reference.raw_of_parse parsed]
    | typeMismatch parsed earlier called declared types expected differ =>
        rw [parsed]
        dsimp only
        rw [checkReference_of_lt earlier called, declared, ← Reference.raw_of_parse parsed]
        exact checkTypes_eq_violation_iff.2 ⟨_, _, types, expected, differ, rfl⟩

/-- The check of a text is given up at its obstacle. -/
theorem checkText_eq_unchecked_iff (within : index ≤ plan.calls.length) {cause : Unchecked} :
    checkText registry plan index input place text = .error (.unchecked cause) ↔
      LeafObstacle registry plan index input place text cause := by
  constructor
  · intro h
    unfold checkText at h
    split at h
    · next long hparse =>
        cases h
        exact .longIndex hparse
    · cases h
    · next reference hparse =>
        by_cases earlier : reference.source < index
        · have called := List.getElem?_eq_getElem (Nat.lt_of_lt_of_le earlier within)
          rw [checkReference_of_lt earlier called] at h
          split at h
          · cases h
          · next long hfield =>
              cases h
              exact .longWay hparse earlier called hfield
          · next field hfield =>
              rcases checkTypes_eq_unchecked_iff.1 h with
                ⟨odd, rfl⟩ | ⟨members, long, rfl, rfl, untold⟩
              · exact .fieldSchema hparse earlier called hfield odd
              · exact .longType hparse earlier called hfield untold
        · rw [checkReference, if_neg earlier] at h
          cases h
  · intro h
    unfold checkText
    cases h with
    | longIndex parsed => rw [parsed]
    | longWay parsed earlier called way =>
        rw [parsed]
        dsimp only
        rw [checkReference_of_lt earlier called, way]
    | fieldSchema parsed earlier called declared odd =>
        rw [parsed]
        dsimp only
        rw [checkReference_of_lt earlier called, declared]
        exact checkTypes_of_odd odd
    | longType parsed earlier called declared untold =>
        rw [parsed]
        dsimp only
        rw [checkReference_of_lt earlier called, declared]
        exact checkTypes_eq_unchecked_iff.2 (.inr ⟨_, _, rfl, rfl, untold⟩)

theorem checkText_eq_error_iff (within : index ≤ plan.calls.length) {rejection : Rejection} :
    checkText registry plan index input place text = .error rejection ↔
      LeafFlaw registry plan index input place text rejection := by
  cases rejection with
  | violation v =>
      rw [checkText_eq_violation_iff within]
      constructor
      · rintro ⟨cause, fault, rfl⟩
        exact .fault fault
      · rintro ⟨fault⟩
        exact ⟨_, fault, rfl⟩
  | unchecked cause =>
      rw [checkText_eq_unchecked_iff within]
      exact ⟨.obstacle, fun | .obstacle obstacle => obstacle⟩

end

/-! ### The check of a call -/

/-- The check of a leaf: a text that was not meant as a reference passes. -/
def checkLeaf (registry : Registry) (plan : ToolCalls) (index : Nat) (input : Json)
    (leaf : Location × String) : Except Rejection Unit :=
  if Reference.looksLike leaf.2 then checkText registry plan index input leaf.1 leaf.2 else .ok ()

section
variable {registry : Registry} {plan : ToolCalls} {index : Nat} {input : Json}
  {leaf : Location × String}

theorem checkLeaf_of_meant (meant : Reference.looksLike leaf.2 = true) :
    checkLeaf registry plan index input leaf
      = checkText registry plan index input leaf.1 leaf.2 := by
  unfold checkLeaf
  rw [if_pos meant]

/-- A leaf is rejected if it was meant as a reference and has a flaw. -/
theorem checkLeaf_eq_error_iff (within : index ≤ plan.calls.length) {rejection : Rejection} :
    checkLeaf registry plan index input leaf = .error rejection ↔
      Reference.looksLike leaf.2 = true ∧
        LeafFlaw registry plan index input leaf.1 leaf.2 rejection := by
  by_cases meant : Reference.looksLike leaf.2 = true
  · rw [checkLeaf_of_meant meant, checkText_eq_error_iff within, and_iff_right meant]
  · simp [checkLeaf, meant]

end

theorem checkTexts_eq_forM (registry : Registry) (plan : ToolCalls) (index : Nat) (input : Json)
    (texts : List (Location × String)) :
    checkTexts registry plan index input texts
      = forM texts fun leaf => checkText registry plan index input leaf.1 leaf.2 := by
  induction texts with
  | nil => rfl
  | cons leaf rest ih =>
      rw [List.forM_cons, ← ih]
      rfl

/-- A call of a registered tool is checked leaf by leaf. -/
theorem checkCall_eq_forM {registry : Registry} {plan : ToolCalls} {index : Nat}
    {call : PlannedCall} {schema : ToolSchema} (h : registry.lookup call.tool = some schema) :
    checkCall registry plan index call
      = forM (Json.obj call.arguments).leaves
          (checkLeaf registry plan index (.obj schema.input)) := by
  unfold checkCall
  rw [h]
  dsimp only
  rw [checkTexts_eq_forM, Reference.candidates, forM_filter]
  rfl

end Validation

end CallPlan
