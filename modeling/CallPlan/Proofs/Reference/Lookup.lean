import CallPlan.Proofs.Schema.Instance

/-!
# CallPlan.Proofs.Reference.Lookup

Which field of a structured content a path names.

* `Json.named?` is the rule by which the first key of a path decides where the path is followed: in
  the content if that has the key, in the artifact of an envelope that lacks it, and nowhere in any
  other value. What following a path means is said by `Json.at?`, step by step along a location.
* `Json.field?` looks into the artifact whenever the content does not have the whole path. It agrees
  with the rule on every path that does not stray (`field?_eq_named?_iff`): a path strays if an
  envelope has its first key and breaks it off later, while the artifact has all of it.
-/

namespace CallPlan

namespace Json

/-! ## Paths as locations -/

/-- The location that the keys of a path lead to. -/
def keyed (path : List String) : Location := path.map .key

theorem part?_key (value : Json) (key : String) : value.part? (.key key) = value.get? key := by
  cases value <;> rfl

/-- A path is followed like the location that its keys lead to. -/
theorem follow?_eq_at? (value : Json) (path : List String) :
    value.follow? path = value.at? (keyed path) := by
  induction path generalizing value with
  | nil => rfl
  | cons key rest ih =>
      have step : keyed (key :: rest) = .key key :: keyed rest := rfl
      rw [follow?, step, at?_cons, part?_key]
      exact Option.bind_congr fun inner _ => ih inner

theorem isSome_get?_of_at? {value found : Json} {first : String} {rest : List String}
    (h : value.at? (keyed (first :: rest)) = some found) : (value.get? first).isSome = true := by
  have step : keyed (first :: rest) = .key first :: keyed rest := rfl
  rw [step, at?_cons, part?_key] at h
  obtain ⟨inner, held, -⟩ := Option.bind_eq_some_iff.1 h
  rw [held, Option.isSome_some]

/-! ## The rule and the search -/

/-- What the artifact of a content has at a path. -/
def inArtifact? (content : Json) (path : List String) : Option Json :=
  (content.get? "artifact").bind (·.at? (keyed path))

/-- The field that a path names by the rule that its first key decides: in the content itself if
that has the key, and in the artifact of an envelope that lacks it. -/
def named? (content : Json) (first : String) (rest : List String) : Option Json :=
  if (content.get? first).isSome then content.at? (keyed (first :: rest))
  else if Wrapped.isWrapped content then content.inArtifact? (first :: rest)
  else none

/-- A path that an envelope breaks off behind its first key, while the artifact has all of it. -/
structure Strays (content : Json) (first : String) (rest : List String) : Prop where
  wrapped : Wrapped.isWrapped content = true
  known : (content.get? first).isSome = true
  broken : content.at? (keyed (first :: rest)) = none
  inside : (content.inArtifact? (first :: rest)).isSome = true

section
variable {content : Json} {first : String} {rest : List String}

theorem field?_of_at?_eq_none {path : List String} (broken : content.at? (keyed path) = none) :
    content.field? path =
      if Wrapped.isWrapped content then content.inArtifact? path else none := by
  rw [← follow?_eq_at?] at broken
  unfold field?
  rw [broken]
  simp only [inArtifact?, follow?_eq_at?]

theorem field?_of_at? {path : List String} {value : Json}
    (found : content.at? (keyed path) = some value) : content.field? path = some value :=
  Schema.field?_of_follow? (by rw [follow?_eq_at?, found])

/-- A path of one key does not stray: what has the key has the field. -/
theorem Strays.rest_ne_nil (h : Strays content first rest) : rest ≠ [] := by
  rintro rfl
  have known := h.known
  have broken := h.broken
  have step : keyed [first] = [.key first] := rfl
  rw [step, at?_cons, part?_key] at broken
  rw [Option.isSome_iff_exists] at known
  obtain ⟨inner, held⟩ := known
  rw [held] at broken
  cases broken

theorem Strays.field?_eq (h : Strays content first rest) :
    content.field? (first :: rest) = content.inArtifact? (first :: rest) := by
  rw [field?_of_at?_eq_none h.broken, if_pos h.wrapped]

theorem Strays.named?_eq (h : Strays content first rest) : content.named? first rest = none := by
  rw [named?, if_pos h.known, h.broken]

/-- The field that is found is the one that the first key decides on, unless the path strays; the
field of a path that strays is taken from the artifact, though there is none by the rule. -/
theorem field?_eq_named?_iff (content : Json) (first : String) (rest : List String) :
    (content.field? (first :: rest) = content.named? first rest ↔ ¬ Strays content first rest) ∧
    (Strays content first rest → rest ≠ [] ∧ content.named? first rest = none ∧
      content.field? (first :: rest) = content.inArtifact? (first :: rest)) := by
  refine ⟨⟨fun same strays => ?_, fun straight => ?_⟩,
    fun strays => ⟨strays.rest_ne_nil, strays.named?_eq, strays.field?_eq⟩⟩
  · have inside := strays.inside
    rw [← strays.field?_eq, same, strays.named?_eq] at inside
    cases inside
  · cases found : content.at? (keyed (first :: rest)) with
    | some value => rw [field?_of_at? found, named?, if_pos (isSome_get?_of_at? found), found]
    | none =>
        rw [field?_of_at?_eq_none found, named?, found]
        by_cases known : (content.get? first).isSome = true
        · rw [if_pos known]
          by_cases wrapped : Wrapped.isWrapped content = true
          · -- an envelope that has the key would make the path stray if its artifact had the field
            rw [if_pos wrapped]
            cases inside : content.inArtifact? (first :: rest) with
            | none => rfl
            | some value =>
                exact absurd ⟨wrapped, known, found, by rw [inside, Option.isSome_some]⟩ straight
          · rw [if_neg wrapped]
        · rw [if_neg known]

end

/-- In an envelope whose metadata lack a key, the key is found in the metadata of the artifact. -/
theorem exists_field?_ne_named? :
    ∃ (content : Json) (first : String) (rest : List String),
      (content.get? first).isSome = true ∧ content.named? first rest = none ∧
        content.field? (first :: rest) = some (.int 2) :=
  ⟨.obj [("artifact_id", .str "a"),
      ("artifact", .obj [("_metadata", .obj [("version", .int 2)])]),
      ("_metadata", .obj [("tool_name", .str "t")])],
    "_metadata", ["version"], by rfl, by rfl, by rfl⟩

end Json

end CallPlan
