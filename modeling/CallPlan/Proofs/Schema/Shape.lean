import CallPlan.Proofs.Schema.Instance

/-!
# CallPlan.Proofs.Schema.Shape

Whether a field is found in a schema where it is found in a value.

* `Schema.Shaped` values have exactly the properties that their schema declares, at every depth, and
  nothing in them is an object where the schema says nothing of properties. Along such a value and
  its schema a path goes equally far (`Shaped.follow?`).
* `Schema.place?` and `Json.place?` tell whether a field is found at the top level or inside the
  artifact. The two searches pass on to the artifact for different reasons: the one over a schema if
  the first key is not declared, the one over a value if this is an envelope.
* Where these reasons come apart the field is `Contested`; everywhere else a field is found in both
  or in none, at the same place, and the value is shaped like the schema of the field.
-/

namespace CallPlan

/-- Where a field is found. -/
inductive Place where
  | top
  | artifact
  deriving DecidableEq, Inhabited

/-- The schema that a search has found. -/
def FieldSearch.found? : FieldSearch → Option Json
  | .found schema => some schema
  | .missing _ _ | .longType _ => none

/-- Where a run finds the field that a path names. -/
def Json.place? (content : Json) (path : List String) : Option Place :=
  (content.field? path).map fun _ =>
    if (content.follow? path).isSome then .top else .artifact

namespace Schema

/-- Where a field of an output schema is found. -/
def place? (schema : Json) (path : List String) : Option Place :=
  (field schema path).found?.map fun _ =>
    if (walk schema path).found?.isSome then .top else .artifact

/-- Whether the keys of an envelope are declared. A list declares none. -/
def declaresEnvelope (schema : Json) : Bool := Wrapped.keys.all (Members.contains (searched schema))

/-- What the artifact of a schema has at a path. -/
def nested? (schema : Json) (path : List String) : Option Json :=
  (Members.get? (properties schema) "artifact").bind fun artifact => (walk artifact path).found?

/-- A path that only the artifact has, where the two reasons to look there come apart: its first key
is not declared and the schema is not that of an envelope, or it is declared and this is one. -/
structure Contested (schema : Json) (first : String) (rest : List String) : Prop where
  absent : (walk schema (first :: rest)).found? = none
  nested : (nested? schema (first :: rest)).isSome = true
  apart : Members.contains (properties schema) first = declaresEnvelope schema

/-- A value that is an object where its schema declares properties and is no list, with exactly the
declared keys and values of their shapes, and that is no object elsewhere. -/
inductive Shaped : Json → Json → Prop where
  | object {schema : Json} {props members : Members}
      (declared : schema.get? "properties" = some (.obj props))
      (single : isArray schema = .ok false)
      (keys : ∀ key, Members.contains members key = Members.contains props key)
      (inside : ∀ key inner field, Members.get? props key = some inner →
        Members.get? members key = some field → Shaped inner field) :
      Shaped schema (.obj members)
  | leaf {schema value : Json}
      (silent : isArray schema = .ok true ∨ ∀ props, schema.get? "properties" ≠ some (.obj props))
      (simple : ∀ members, value ≠ .obj members) :
      Shaped schema value

/-! ### Two partial results -/

section
variable {α β γ δ : Type} {R : α → β → Prop} {S : γ → δ → Prop} {a : Option α} {b : Option β}

theorem isSome_eq_of_rel (h : Option.Rel R a b) : a.isSome = b.isSome := by
  cases h <;> rfl

theorem map_eq_of_rel (h : Option.Rel R a b) (c : γ) :
    (a.map fun _ => c) = b.map fun _ => c := by
  cases h <;> rfl

theorem rel_cases (h : Option.Rel R a b) :
    (∃ x y, a = some x ∧ b = some y ∧ R x y) ∨ a = none ∧ b = none := by
  cases h with
  | some r => exact .inl ⟨_, _, rfl, rfl, r⟩
  | none => exact .inr ⟨rfl, rfl⟩

theorem rel_bind {f : α → Option γ} {g : β → Option δ} (h : Option.Rel R a b)
    (next : ∀ x y, a = some x → R x y → Option.Rel S (f x) (g y)) :
    Option.Rel S (a.bind f) (b.bind g) := by
  cases h with
  | none => exact .none
  | some r => exact next _ _ rfl r

end

/-! ### Along a path -/

theorem get?_of_not_object {value : Json} (simple : ∀ members, value ≠ .obj members)
    (key : String) : value.get? key = none := by
  cases value with
  | obj members => exact absurd rfl (simple members)
  | null => rfl
  | bool b => rfl
  | num n => rfl
  | str s => rfl
  | arr items => rfl

theorem properties_of_undeclared {schema : Json}
    (silent : ∀ props, schema.get? "properties" ≠ some (.obj props)) : properties schema = [] := by
  unfold properties
  split
  · next props declared => exact absurd declared (silent props)
  · rfl

theorem searched_of_declared {schema : Json} {props : Members}
    (declared : schema.get? "properties" = some (.obj props)) (single : isArray schema = .ok false) :
    searched schema = props := by
  simp [searched, single, properties, declared]

theorem searched_of_silent {schema : Json}
    (silent : isArray schema = .ok true ∨ ∀ props, schema.get? "properties" ≠ some (.obj props)) :
    searched schema = [] := by
  unfold searched
  split
  · next single =>
      exact properties_of_undeclared (silent.resolve_left (by simp [single]))
  · rfl

/-- A schema whose types cannot be told has the shape of a value only if it declares no
properties. -/
theorem Shaped.properties_of_error {schema value : Json} {long : LongNumber}
    (h : Shaped schema value) (types : isArray schema = .error long) : properties schema = [] := by
  cases h with
  | object declared single => simp [single] at types
  | leaf silent simple => exact properties_of_undeclared (silent.resolve_left (by simp [types]))

/-- A value of the shape of a schema has the keys that the schema declares, with values of the
shapes that are declared. -/
theorem Shaped.get? {schema value : Json} (h : Shaped schema value) (key : String) :
    Option.Rel Shaped (Members.get? (searched schema) key) (value.get? key) := by
  cases h with
  | leaf silent simple =>
      rw [searched_of_silent silent, get?_of_not_object simple]
      exact .none
  | @object _ props members declared single keys inside =>
      rw [searched_of_declared declared single, Json.get?]
      have same : (Members.get? members key).isSome = (Members.get? props key).isSome := keys key
      cases hinner : Members.get? props key with
      | none =>
          rw [hinner, Option.isSome_none, Option.isSome_eq_false_iff,
            Option.isNone_iff_eq_none] at same
          rw [same]
          exact .none
      | some inner =>
          rw [hinner, Option.isSome_some] at same
          obtain ⟨field, hfield⟩ := Option.isSome_iff_exists.1 same
          rw [hfield]
          exact .some (inside key inner field hinner hfield)

theorem Shaped.of_members {schema : Json} {props members : Members}
    (declared : schema.get? "properties" = some (.obj props)) (single : isArray schema = .ok false)
    (paired : ∀ key, Option.Rel Shaped (Members.get? props key) (Members.get? members key)) :
    Shaped schema (.obj members) := by
  refine .object declared single (fun key => (isSome_eq_of_rel (paired key)).symm) ?_
  intro key inner field hinner hfield
  have pair := paired key
  rw [hinner, hfield] at pair
  cases pair with
  | some shaped => exact shaped

theorem rel_cons {props members : Members} {name : String} {inner field : Json}
    (shaped : Shaped inner field)
    (paired : ∀ key, Option.Rel Shaped (Members.get? props key) (Members.get? members key))
    (key : String) :
    Option.Rel Shaped (Members.get? ((name, inner) :: props) key)
      (Members.get? ((name, field) :: members) key) := by
  rw [Members.get?_cons, Members.get?_cons]
  split
  · exact .some shaped
  · exact paired key

theorem found?_walk_cons (schema : Json) (key : String) (rest : List String) :
    (walk schema (key :: rest)).found? =
      (Members.get? (searched schema) key).bind fun inner => (walk inner rest).found? := by
  rw [walk]
  split
  · next unsure =>
      simp [searched, unsure, FieldSearch.found?]
  · next inner _ hinner => rw [hinner, Option.bind_some]
  · next _ unknown =>
      rw [unknown]
      rfl

/-- Along a schema of which every property is an object and a value of its shape, a path goes
equally far. -/
theorem Shaped.follow? {schema value : Json} (h : Shaped schema value)
    (objects : ObjectProperties schema) (path : List String)
    (known : path = [] → schema ≠ .null) :
    Option.Rel Shaped (walk schema path).found? (value.follow? path) := by
  induction path generalizing schema value with
  | nil =>
      rw [walk, if_neg (known rfl), Json.follow?]
      exact .some h
  | cons key rest ih =>
      rw [found?_walk_cons, Json.follow?]
      refine rel_bind (h.get? key) fun inner field hinner shaped => ?_
      cases objects with
      | intro object inside =>
          have declared := properties_of_searched hinner
          obtain ⟨members, e⟩ := object key inner declared
          exact ih shaped (inside key inner declared) fun _ => by simp [e]

/-! ### Top level and artifact -/

theorem field_of_found {schema inner : Json} {path : List String}
    (h : (walk schema path).found? = some inner) : (field schema path).found? = some inner := by
  cases hwalk : walk schema path with
  | found inner' =>
      unfold field
      rw [hwalk] at h ⊢
      exact h
  | missing segment siblings =>
      rw [hwalk] at h
      cases h
  | longType long =>
      rw [hwalk] at h
      cases h

theorem walk_of_undeclared {schema : Json} {first : String} {rest : List String} {single : Bool}
    (types : isArray schema = .ok single)
    (h : Members.get? (properties schema) first = none) :
    walk schema (first :: rest) = .missing first (searched schema).keys := by
  have unknown : Members.get? (searched schema) first = none := by
    unfold searched
    split
    · exact h
    · rfl
  rw [walk, types, unknown]

/-- Where the top level does not have a path, a search over a schema passes on to the artifact if
the first key is not declared. -/
theorem field_of_absent {schema : Json} {first : String} {rest : List String}
    (told : ∀ long, isArray schema = .error long → properties schema = [])
    (absent : (walk schema (first :: rest)).found? = none) :
    (field schema (first :: rest)).found? =
      if Members.contains (properties schema) first then none
      else nested? schema (first :: rest) := by
  cases declared : Members.get? (properties schema) first with
  | some next =>
      -- no path is looked for in the artifact whose first key is declared, wherever it broke off
      simp only [Members.contains, declared, Option.isSome_some, if_true]
      cases hsearch : field schema (first :: rest) with
      | missing segment siblings => rfl
      | longType long => rfl
      | found inner =>
          rcases field_eq_found hsearch with hwalk | ⟨_, _, _, path, undeclared, -, -⟩
          · rw [hwalk] at absent
            cases absent
          · cases path
            rw [declared] at undeclared
            cases undeclared
  | none =>
      cases types : isArray schema with
      | error long =>
          have top : walk schema (first :: rest) = .longType long := by
            rw [walk, types]
          simp [field, nested?, top, told long types, FieldSearch.found?]
      | ok single =>
          unfold field nested?
          rw [walk_of_undeclared types declared]
          cases hartifact : Members.get? (properties schema) "artifact" with
          | none => simp [hartifact, FieldSearch.found?]
          | some artifact =>
              cases hwalk : walk artifact (first :: rest) with
              | found inner =>
                  simp [hartifact, Members.contains, declared, hwalk, FieldSearch.found?]
              | longType long =>
                  simp [hartifact, Members.contains, declared, hwalk, FieldSearch.found?]
              | missing segment siblings =>
                  simp only [hartifact, Members.contains, declared, hwalk, Option.bind_some]
                  by_cases same : segment = first <;> simp [same, FieldSearch.found?]

theorem isWrapped_eq_all (value : Json) :
    Wrapped.isWrapped value = Wrapped.keys.all fun key => (value.get? key).isSome := by
  cases value <;> rfl

theorem isWrapped_of_shaped {schema content : Json} (h : Shaped schema content) :
    Wrapped.isWrapped content = declaresEnvelope schema := by
  have same : (fun key => (content.get? key).isSome) = Members.contains (searched schema) :=
    funext fun key => (isSome_eq_of_rel (h.get? key)).symm
  rw [isWrapped_eq_all, same, declaresEnvelope]

theorem searched_of_envelope {schema : Json} (h : declaresEnvelope schema = true) :
    searched schema = properties schema := by
  unfold searched
  split
  · rfl
  · next list =>
      have none : searched schema = [] := by
        unfold searched
        split
        · next single => exact absurd single list
        · rfl
      simp [declaresEnvelope, none, Wrapped.keys, Members.contains] at h

/-- Inside the artifact of an envelope a path goes equally far. -/
theorem Shaped.nested? {schema content : Json} (h : Shaped schema content)
    (objects : ObjectProperties schema) (envelope : declaresEnvelope schema = true)
    (path : List String) :
    Option.Rel Shaped (nested? schema path)
      ((content.get? "artifact").bind (·.follow? path)) := by
  have step := h.get? "artifact"
  rw [searched_of_envelope envelope] at step
  refine rel_bind step fun artifact field hartifact shaped => ?_
  cases objects with
  | intro object inside =>
      obtain ⟨members, e⟩ := object _ _ hartifact
      exact shaped.follow? (inside _ _ hartifact) path fun _ => by simp [e]

/-! ### The same place -/

section
variable {schema content : Json} {first : String} {rest : List String}

/-- Where the top level does not have a path, a search over a value passes on to the artifact if
the schema is that of an envelope. -/
theorem field?_of_absent (shaped : Shaped schema content) {path : List String}
    (absent : content.follow? path = none) :
    content.field? path =
      if declaresEnvelope schema then (content.get? "artifact").bind (·.follow? path)
      else none := by
  unfold Json.field?
  rw [absent, ← isWrapped_of_shaped shaped]

/-- Without a contest a field is found in a schema and in a value of its shape, or in none of them,
and what is found in the value has the shape of what is found in the schema. -/
theorem rel_of_uncontested (objects : ObjectProperties schema) (shaped : Shaped schema content)
    (uncontested : ¬ Contested schema first rest) :
    Option.Rel Shaped (field schema (first :: rest)).found? (content.field? (first :: rest)) := by
  rcases rel_cases (shaped.follow? objects (first :: rest) nofun) with
    ⟨inner, value, hwalk, hfollow, inside⟩ | ⟨absent, hfollow⟩
  · rw [field_of_found hwalk, field?_of_follow? hfollow]
    exact .some inside
  · rw [field_of_absent (fun _ => shaped.properties_of_error) absent,
      field?_of_absent shaped hfollow]
    -- where only one of the searches passes on to the artifact, there is nothing to find in it
    have nowhere : Members.contains (properties schema) first = declaresEnvelope schema →
        nested? schema (first :: rest) = none := by
      intro apart
      cases hnested : nested? schema (first :: rest) with
      | none => rfl
      | some inner => exact absurd ⟨absent, by rw [hnested]; rfl, apart⟩ uncontested
    cases declared : Members.contains (properties schema) first <;>
      cases envelope : declaresEnvelope schema
    · rw [nowhere (declared.trans envelope.symm)]
      exact .none
    · exact shaped.nested? objects envelope _
    · exact .none
    · have nested := shaped.nested? objects envelope (first :: rest)
      rwa [nowhere (declared.trans envelope.symm)] at nested

/-- A contested field is found in the schema of no envelope, and in the value of an envelope. -/
theorem isSome_of_contested (objects : ObjectProperties schema) (shaped : Shaped schema content)
    (contested : Contested schema first rest) :
    (field schema (first :: rest)).found?.isSome = !declaresEnvelope schema ∧
      (content.field? (first :: rest)).isSome = declaresEnvelope schema := by
  rcases rel_cases (shaped.follow? objects (first :: rest) nofun) with
    ⟨inner, _, hwalk, -, -⟩ | ⟨absent, hfollow⟩
  · exact nomatch contested.absent.symm.trans hwalk
  · rw [field_of_absent (fun _ => shaped.properties_of_error) absent,
      field?_of_absent shaped hfollow, contested.apart]
    cases envelope : declaresEnvelope schema with
    | false => exact ⟨contested.nested, rfl⟩
    | true =>
        refine ⟨rfl, ?_⟩
        rw [if_pos rfl, ← isSome_eq_of_rel (shaped.nested? objects envelope _)]
        exact contested.nested

/-- A field of an output schema is found where it is found in an output of that shape, unless it is
contested; and where the places are the same, what is found in the output has the shape of what is
found in the schema. -/
theorem place?_eq_iff (objects : ObjectProperties schema) (shaped : Shaped schema content) :
    (place? schema (first :: rest) = content.place? (first :: rest) ↔
      ¬ Contested schema first rest) ∧
    (place? schema (first :: rest) = content.place? (first :: rest) →
      Option.Rel Shaped (field schema (first :: rest)).found?
        (content.field? (first :: rest))) := by
  have uncontested : place? schema (first :: rest) = content.place? (first :: rest) →
      ¬ Contested schema first rest := by
    intro same contested
    obtain ⟨found, valued⟩ := isSome_of_contested objects shaped contested
    have same := congrArg Option.isSome same
    unfold place? Json.place? at same
    rw [Option.isSome_map, Option.isSome_map, found, valued] at same
    cases envelope : declaresEnvelope schema <;> simp [envelope] at same
  refine ⟨⟨uncontested, fun h => ?_⟩, fun same =>
    rel_of_uncontested objects shaped (uncontested same)⟩
  have walked := shaped.follow? objects (first :: rest) nofun
  unfold place? Json.place?
  rw [isSome_eq_of_rel walked, map_eq_of_rel (rel_of_uncontested objects shaped h)]

end

end Schema

namespace Sample

/-- A schema that declares properties. -/
def declaring (props : Members) : Json := .obj [("properties", .obj props)]

/-- The schema of an envelope whose artifact has an identifier of several parts. -/
def partedId : Json :=
  declaring [("artifact_id", .obj []),
    ("artifact", declaring [("artifact_id", declaring [("z", .obj [])])]), ("_metadata", .obj [])]

/-- An envelope of that shape. -/
def partedEnvelope : Json :=
  .obj [("artifact_id", .str "a"), ("artifact", .obj [("artifact_id", .obj [("z", .int 1)])]),
    ("_metadata", .str "m")]

/-- The schema of an artifact without an envelope. -/
def bareArtifact : Json := declaring [("artifact", declaring [("x", .obj [])])]

/-- An artifact without an envelope. -/
def bareValue : Json := .obj [("artifact", .obj [("x", .int 1)])]

open Schema

theorem objectProperties_silent : ObjectProperties (.obj []) := .of_members nofun nofun

theorem objectProperties_declaring {props : Members}
    (object : ∀ member ∈ props, ∃ members, member.2 = .obj members)
    (inside : ∀ member ∈ props, ObjectProperties member.2) :
    ObjectProperties (declaring props) := .of_members object inside

theorem shaped_silent {value : Json} (simple : ∀ members, value ≠ .obj members) :
    Shaped (.obj []) value := .leaf (.inr nofun) simple

theorem shaped_declaring {props members : Members}
    (paired : ∀ key, Option.Rel Shaped (Members.get? props key) (Members.get? members key)) :
    Shaped (declaring props) (.obj members) := .of_members rfl rfl paired

theorem objectProperties_partedId : ObjectProperties partedId := by
  refine objectProperties_declaring (by simp [declaring]) ?_
  simp only [List.forall_mem_cons]
  refine ⟨objectProperties_silent, ?_, objectProperties_silent, nofun⟩
  refine objectProperties_declaring (by simp [declaring]) ?_
  simp only [List.forall_mem_cons]
  refine ⟨?_, nofun⟩
  refine objectProperties_declaring (by simp) ?_
  simp only [List.forall_mem_cons]
  exact ⟨objectProperties_silent, nofun⟩

theorem objectProperties_bareArtifact : ObjectProperties bareArtifact := by
  refine objectProperties_declaring (by simp [declaring]) ?_
  simp only [List.forall_mem_cons]
  refine ⟨?_, nofun⟩
  refine objectProperties_declaring (by simp) ?_
  simp only [List.forall_mem_cons]
  exact ⟨objectProperties_silent, nofun⟩

theorem shaped_partedEnvelope : Shaped partedId partedEnvelope :=
  shaped_declaring <| rel_cons (shaped_silent nofun) <|
    rel_cons (shaped_declaring <| rel_cons
      (shaped_declaring <| rel_cons (shaped_silent nofun) fun _ => .none) fun _ => .none) <|
    rel_cons (shaped_silent nofun) fun _ => .none

theorem shaped_bareValue : Shaped bareArtifact bareValue :=
  shaped_declaring <| rel_cons
    (shaped_declaring <| rel_cons (shaped_silent nofun) fun _ => .none) fun _ => .none

end Sample

namespace Schema

/-- The identifier of the artifact is found in the artifact by its second key alone, and of an
artifact without an envelope all is found. -/
theorem place?_eq_iff_partedId :
    ObjectProperties Sample.partedId ∧ Shaped Sample.partedId Sample.partedEnvelope ∧
      (place? Sample.partedId ["artifact_id", "z"] =
          Sample.partedEnvelope.place? ["artifact_id", "z"] ↔
        ¬ Contested Sample.partedId "artifact_id" ["z"]) ∧
      Contested Sample.partedId "artifact_id" ["z"] := by
  refine ⟨Sample.objectProperties_partedId, Sample.shaped_partedEnvelope,
    (place?_eq_iff Sample.objectProperties_partedId Sample.shaped_partedEnvelope).1, ?_⟩
  exact ⟨rfl, rfl, rfl⟩

/-- The two searches do not always find a field at the same place: in the value of an envelope one
is found that its schema does not seem to have, and in a schema that declares an artifact alone one
is found that its values do not seem to have. -/
theorem exists_place?_ne :
    (∃ schema content path, ObjectProperties schema ∧ Shaped schema content ∧ path ≠ [] ∧
      place? schema path = none ∧ content.place? path = some .artifact) ∧
    (∃ schema content path, ObjectProperties schema ∧ Shaped schema content ∧ path ≠ [] ∧
      place? schema path = some .artifact ∧ content.place? path = none) :=
  ⟨⟨_, _, ["artifact_id", "z"], Sample.objectProperties_partedId, Sample.shaped_partedEnvelope,
      nofun, rfl, rfl⟩,
    ⟨_, _, ["x"], Sample.objectProperties_bareArtifact, Sample.shaped_bareValue, nofun, rfl, rfl⟩⟩

end Schema

end CallPlan
