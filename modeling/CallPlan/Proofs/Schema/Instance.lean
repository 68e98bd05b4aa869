import CallPlan.Resolve
import CallPlan.Proofs.Schema.Field

/-!
# CallPlan.Proofs.Schema.Instance

Values that follow a schema.

* `Schema.Complete` and `Schema.Conforms` say how much of a schema a value has: all declared
  properties, or exactly these and the declared types. `Schema.CompleteOutput` and
  `Schema.ConformingOutput` add what is asked of the output of a tool whose schema declares an
  artifact.
* A field that is found in the schema is found in such a value (`field?_of_complete`), and follows
  the schema of the field (`field?_of_conforming`).
-/

namespace CallPlan

namespace Schema

/-- A value that has, wherever the schema declares properties, every declared property. Further keys
are allowed. -/
inductive Complete : Json → Json → Prop where
  | intro {schema value : Json}
      (object : ∀ props, schema.get? "properties" = some (.obj props) →
        ∃ members, value = .obj members)
      (present : ∀ key, Members.contains (properties schema) key = true →
        (value.get? key).isSome = true)
      (inside : ∀ key inner field, Members.get? (properties schema) key = some inner →
        value.get? key = some field → Complete inner field) :
      Complete schema value

/-- An output that has all that its schema declares, and is an envelope if that declares an
artifact. -/
structure CompleteOutput (schema content : Json) : Prop where
  complete : Complete schema content
  envelope : Members.contains (properties schema) "artifact" = true →
    Wrapped.isWrapped content = true

/-- Whether a value is of a type of JSON Schema; a whole number is of two. -/
def isOfType : Json → String → Bool
  | .null, word => word = "null"
  | .bool _, word => word = "boolean"
  | .num (.int _), word => word = "integer" || word = "number"
  | .num (.float _), word => word = "number"
  | .str _, word => word = "string"
  | .arr _, word => word = "array"
  | .obj _, word => word = "object"

/-- A value that is, wherever the schema declares types, of one of them, and has, wherever it
declares properties, exactly these. Which types a value is of is left to `typing`, which may be that
of `isOfType`, or one that counts whole numbers otherwise. -/
inductive Conforms (typing : Json → String → Prop) : Json → Json → Prop where
  | intro {schema value : Json}
      (types : ∀ declared, TypeSet.ofDeclared? (schema.get? "type") = .ok (some declared) →
        ∃ word ∈ declared, typing value word)
      (object : ∀ props, schema.get? "properties" = some (.obj props) →
        ∃ members, value = .obj members ∧
          ∀ key, Members.contains members key = Members.contains props key)
      (inside : ∀ key inner field, Members.get? (properties schema) key = some inner →
        value.get? key = some field → Conforms typing inner field) :
      Conforms typing schema value

/-- An output that conforms to a schema, which declares the other keys of an envelope if it declares
an artifact. -/
structure ConformingOutput (typing : Json → String → Prop) (schema content : Json) : Prop where
  conforms : Conforms typing schema content
  envelope : Members.contains (properties schema) "artifact" = true →
    Members.contains (properties schema) "artifact_id" = true ∧
      Members.contains (properties schema) "_metadata" = true

/-! ### Following a path -/

/-- Declared properties are those of an object-valued `properties`. -/
theorem get?_properties {schema inner : Json} {key : String}
    (h : Members.get? (properties schema) key = some inner) :
    ∃ props, schema.get? "properties" = some (.obj props) ∧ properties schema = props := by
  unfold properties at h ⊢
  split at h
  · next props hprops => exact ⟨props, hprops, rfl⟩
  · simp at h

theorem Complete.of_members {schema value : Json}
    (object : ∀ props, schema.get? "properties" = some (.obj props) →
      ∃ members, value = .obj members)
    (inside : ∀ member ∈ properties schema,
      ∃ field, value.get? member.1 = some field ∧ Complete member.2 field) :
    Complete schema value := by
  refine .intro object ?_ ?_
  · intro key hkey
    obtain ⟨inner, hinner⟩ := Option.isSome_iff_exists.1 hkey
    obtain ⟨field, hfield, -⟩ := inside _ (mem_of_get? hinner)
    exact Option.isSome_iff_exists.2 ⟨field, hfield⟩
  · intro key inner field hinner hfield
    obtain ⟨field', hfield', complete⟩ := inside _ (mem_of_get? hinner)
    exact Option.some.inj (hfield.symm.trans hfield') ▸ complete

theorem Complete.get? {schema value inner : Json} {key : String} (h : Complete schema value)
    (hkey : Members.get? (properties schema) key = some inner) :
    ∃ field, value.get? key = some field ∧ Complete inner field := by
  cases h with
  | intro object present inside =>
      obtain ⟨field, hfield⟩ :=
        Option.isSome_iff_exists.1 (present key (by simp [Members.contains, hkey]))
      exact ⟨field, hfield, inside key inner field hkey hfield⟩

section
variable {typing : Json → String → Prop}

theorem Conforms.of_members {schema value : Json}
    (types : ∀ declared, TypeSet.ofDeclared? (schema.get? "type") = .ok (some declared) →
      ∃ word ∈ declared, typing value word)
    (object : ∀ props, schema.get? "properties" = some (.obj props) →
      ∃ members, value = .obj members ∧
        ∀ key, Members.contains members key = Members.contains props key)
    (inside : ∀ member ∈ properties schema, ∀ field, value.get? member.1 = some field →
      Conforms typing member.2 field) :
    Conforms typing schema value :=
  .intro types object fun _ _ field hinner => inside _ (mem_of_get? hinner) field

theorem Conforms.isSome_get? {schema value inner : Json} {key : String}
    (h : Conforms typing schema value)
    (hkey : Members.get? (properties schema) key = some inner) (other : String) :
    (value.get? other).isSome = Members.contains (properties schema) other := by
  cases h with
  | intro types object inside =>
      obtain ⟨props, hprops, e⟩ := get?_properties hkey
      obtain ⟨members, rfl, keys⟩ := object props hprops
      rw [e]
      exact keys other

theorem Conforms.get? {schema value inner : Json} {key : String} (h : Conforms typing schema value)
    (hkey : Members.get? (properties schema) key = some inner) :
    ∃ field, value.get? key = some field ∧ Conforms typing inner field := by
  have present := h.isSome_get? hkey key
  rw [Members.contains, hkey] at present
  obtain ⟨field, hfield⟩ := Option.isSome_iff_exists.1 present
  cases h with
  | intro types object inside => exact ⟨field, hfield, inside key inner field hkey hfield⟩

end

/-- A relation that passes from a schema and a value to each declared property passes along every
path that is found in the schema. -/
theorem follow?_of_walk {R : Json → Json → Prop}
    (hereditary : ∀ {schema value inner : Json} {key : String}, R schema value →
      Members.get? (properties schema) key = some inner →
      ∃ field, value.get? key = some field ∧ R inner field)
    {schema value inner : Json} {path : List String} (h : R schema value)
    (hwalk : walk schema path = .found inner) :
    ∃ field, value.follow? path = some field ∧ R inner field := by
  induction path generalizing schema value with
  | nil => exact ⟨value, rfl, walk_nil_eq_found hwalk ▸ h⟩
  | cons key rest ih =>
      obtain ⟨next, hkey, hrest⟩ := walk_cons_eq_found hwalk
      obtain ⟨field, hfield, hR⟩ := hereditary h hkey
      obtain ⟨result, hresult, hfound⟩ := ih hR hrest
      exact ⟨result, by simp [Json.follow?, hfield, hresult], hfound⟩

theorem field?_of_follow? {content value : Json} {path : List String}
    (h : content.follow? path = some value) : content.field? path = some value := by
  unfold Json.field?
  rw [h]

theorem field?_of_artifact {content artifact : Json} {path : List String}
    (missing : content.follow? path = none) (wrapped : Wrapped.isWrapped content = true)
    (h : content.get? "artifact" = some artifact) :
    content.field? path = artifact.follow? path := by
  unfold Json.field?
  rw [missing]
  simp [wrapped, h]

/-- A field that is found in the schema of an output is found in an output that has all that the
schema declares. -/
theorem field?_of_complete {schema content inner : Json} {path : List String}
    (h : CompleteOutput schema content) (hfield : field schema path = .found inner) :
    ∃ value, content.field? path = some value := by
  cases hfollow : content.follow? path with
  | some value => exact ⟨value, field?_of_follow? hfollow⟩
  | none =>
      rcases field_eq_found hfield with hwalk | ⟨first, rest, artifact, -, -, hartifact, hwalk⟩
      · obtain ⟨value, hvalue, -⟩ := follow?_of_walk Complete.get? h.complete hwalk
        rw [hfollow] at hvalue
        cases hvalue
      · have wrapped := h.envelope (by simp [Members.contains, hartifact])
        obtain ⟨inside, hinside, complete⟩ := h.complete.get? hartifact
        obtain ⟨value, hvalue, -⟩ := follow?_of_walk Complete.get? complete hwalk
        exact ⟨value, by rw [field?_of_artifact hfollow wrapped hinside, hvalue]⟩

/-- A field that is found in the schema of an output is found at the same place in an output that
conforms to the schema, and conforms to the schema of the field. -/
theorem field?_of_conforming {typing : Json → String → Prop} {schema content inner : Json}
    {path : List String} (h : ConformingOutput typing schema content)
    (hfield : field schema path = .found inner) :
    ∃ value, content.field? path = some value ∧ Conforms typing inner value := by
  rcases field_eq_found hfield with
    hwalk | ⟨first, rest, artifact, rfl, unknown, hartifact, hwalk⟩
  · obtain ⟨value, hvalue, conforms⟩ := follow?_of_walk Conforms.get? h.conforms hwalk
    exact ⟨value, field?_of_follow? hvalue, conforms⟩
  · have keys := h.conforms.isSome_get? hartifact
    -- the content has no key that is not declared, so the path cannot be taken at the top level
    have missing : content.follow? (first :: rest) = none := by
      have absent := keys first
      rw [Members.contains, unknown, Option.isSome_none, Option.isSome_eq_false_iff,
        Option.isNone_iff_eq_none] at absent
      simp [Json.follow?, absent]
    have wrapped : Wrapped.isWrapped content = true := by
      have declared : Members.contains (properties schema) "artifact" = true := by
        simp [Members.contains, hartifact]
      obtain ⟨declaredId, declaredMetadata⟩ := h.envelope declared
      have hartifact := keys "artifact"
      have hid := keys "artifact_id"
      have hmetadata := keys "_metadata"
      rw [declared] at hartifact
      rw [declaredId] at hid
      rw [declaredMetadata] at hmetadata
      cases content with
      | obj members =>
          simp only [Json.get?] at hartifact hid hmetadata
          simp [Wrapped.isWrapped, Wrapped.keys, Members.contains, hartifact, hid, hmetadata]
      | null => simp [Json.get?] at hid
      | bool b => simp [Json.get?] at hid
      | num n => simp [Json.get?] at hid
      | str s => simp [Json.get?] at hid
      | arr items => simp [Json.get?] at hid
    obtain ⟨inside, hinside, conformsInside⟩ := h.conforms.get? hartifact
    obtain ⟨value, hvalue, conforms⟩ := follow?_of_walk Conforms.get? conformsInside hwalk
    exact ⟨value, by rw [field?_of_artifact missing wrapped hinside, hvalue], conforms⟩

end Schema

end CallPlan
