import CallPlan.Proofs.Schema.Report
import CallPlan.Proofs.Tool.Accord
import CallPlan.Proofs.Validation.Exact

/-!
# CallPlan.Proofs.Validation.Truth

What a violation says of a plan is so.

* `Registry.WellFormed` holds of every registry that registrations and removals lead to
  (`WellFormed.withSchema`, `WellFormed.without`), if the keys of the schemas are distinct.
* `Validation.Truthful` says what can be relied on in a violation: the call, the text and where it
  stands, and what is particular to each kind.
* A violation is the first flaw of the plan, and each fault is truthful: that of a tool
  (`truthful_tool`) and that of a leaf (`LeafFault.truthful`).
-/

namespace CallPlan

/-! ### Registries -/

namespace Registry

/-- The names of a registry differ, and so do the keys inside its output schemas. -/
structure WellFormed (registry : Registry) : Prop where
  order : registry.order.Nodup
  outputs : ∀ schema ∈ registry.schemas, (Json.obj schema.output).Distinct

namespace WellFormed

variable {registry : Registry}

theorem empty : Registry.empty.WellFormed := ⟨List.nodup_nil, List.forall_mem_nil _⟩

theorem withSchema (h : registry.WellFormed) {schema : ToolSchema}
    (distinct : (Json.obj schema.output).Distinct) : (registry.withSchema schema).WellFormed := by
  refine ⟨(registry.withSchema schema).distinct, fun other hother => ?_⟩
  rw [schemas, entries_withSchema] at hother
  rcases mem_schemas_put hother with old | rfl
  · exact h.outputs other old
  · exact distinct

theorem without (h : registry.WellFormed) (name : String) : (registry.without name).WellFormed :=
  ⟨(registry.without name).distinct, fun schema hschema => by
    rw [schemas, entries_without] at hschema
    exact h.outputs schema ((List.filter_sublist.map _).subset hschema)⟩

theorem ofList {schemas : List ToolSchema}
    (distinct : ∀ schema ∈ schemas, (Json.obj schema.output).Distinct) :
    (Registry.ofList schemas).WellFormed := by
  have added : ∀ (schemas : List ToolSchema) (registry : Registry), registry.WellFormed →
      (∀ schema ∈ schemas, (Json.obj schema.output).Distinct) →
      (schemas.foldl Registry.write registry).WellFormed := by
    intro schemas
    induction schemas with
    | nil => exact fun registry h _ => h
    | cons schema rest ih =>
        intro registry h distinct
        obtain ⟨first, others⟩ := List.forall_mem_cons.1 distinct
        exact ih _ (withSchema_eq_write registry schema ▸ h.withSchema first) others
  exact added schemas Registry.empty empty distinct

end WellFormed

end Registry

/-! ### What is shown of types -/

/-- Different sets of types are shown differently. -/
theorem TypeSet.eq_of_display_eq {types types' : TypeSet} (h : types.display = types'.display) :
    types = types' := by
  unfold display at h
  split at h
  · split at h
    · cases h
      rfl
    · cases h
  · split at h
    · cases h
    · exact (List.map_inj_right fun _ _ => Json.str.inj).1 (Json.arr.inj h)

theorem Reference.ne_empty_of_meant {text : String} (meant : looksLike text = true) : text ≠ "" := by
  rintro rfl
  cases meant

namespace Validation

/-! ### What can be relied on -/

/-- What a violation says of the call it blames: its tool is not registered, unlike all that are
named, or it has the text in its arguments. -/
structure Blames (registry : Registry) (call : PlannedCall) (v : Violation) : Prop where
  tool : v.template = "" → registry.lookup call.tool = none ∧
    ∃ available, v.cause = .fieldNotFound call.tool call.tool available ∧
      Text.Increasing available ∧ ∀ name, name ∈ available ↔ registry.contains name = true
  leaf : v.template ≠ "" → ∃ place : Location, place.text = v.argument ∧
    (Json.obj call.arguments).at? place = some (.str v.template)

/-- What a violation says is so. -/
structure Truthful (registry : Registry) (plan : ToolCalls) (v : Violation) : Prop where
  /-- The call that it blames is one of the plan. -/
  call : ∃ (index : Nat) (call : PlannedCall), v.call = index ∧ plan.calls[index]? = some call ∧
    Blames registry call v
  /-- An index out of bounds is not that of an earlier call, and the highest one that would be in
  bounds is that of the call before. -/
  outOfBounds : ∀ referenced, v.cause = .outOfBounds referenced → v.call ≤ referenced ∧
    v.maxValidIndex = if v.call = 0 then none else some (v.call - 1)
  /-- A field that is not found is none of those that are listed, and these are in order. -/
  fieldNotFound : ∀ tool field available, v.cause = .fieldNotFound tool field available →
    field ∉ available ∧ Text.Increasing available
  /-- Types that do not match are shown differently. -/
  typeMismatch : ∀ expected found, v.cause = .typeMismatch expected found → expected ≠ found

variable {registry : Registry} {plan : ToolCalls}

theorem distinct_outputSchema (registered : registry.WellFormed) (tool : String) :
    (outputSchema registry tool).Distinct := by
  unfold outputSchema
  split
  next schema known => exact registered.outputs schema (Registry.mem_schemas_of_lookup known)
  next => exact .obj List.nodup_nil (List.forall_mem_nil _)

/-- The fields that are listed for one that is not found do not include it, and are in order. -/
theorem listed_of_field_missing {schema : Json} (distinct : schema.Distinct) {path : List String}
    {segment : String} {siblings : List String}
    (missing : Schema.field schema path = .missing segment siblings) :
    segment ∉ Text.sorted siblings ∧ Text.Increasing (Text.sorted siblings) := by
  rw [Text.mem_sorted]
  rcases Schema.walk_of_field_missing missing with top | ⟨artifact, held, inside⟩
  · obtain ⟨unlisted, nodup⟩ := Schema.listed_of_walk_missing top
    exact ⟨unlisted, Text.increasing_sorted (nodup distinct)⟩
  · obtain ⟨unlisted, nodup⟩ := Schema.listed_of_walk_missing inside
    exact ⟨unlisted, Text.increasing_sorted (nodup (distinct.properties.get? held))⟩

/-- What is said of a call whose tool is not registered is so. -/
theorem truthful_tool (registered : registry.WellFormed) {index : Nat} {call : PlannedCall}
    (called : plan.calls[index]? = some call) (unknown : registry.lookup call.tool = none) :
    Truthful registry plan
      ⟨index, "", "", .fieldNotFound call.tool call.tool registry.names⟩ where
  call := by
    refine ⟨index, call, rfl, called, fun _ => ⟨unknown, _, rfl, ?_, ?_⟩, fun text => ?_⟩
    · exact Text.increasing_sorted registered.order
    · exact fun name => Registry.mem_names_iff
    · exact absurd rfl text
  outOfBounds _ h := nomatch h
  fieldNotFound tool field available h := by
    cases h
    refine ⟨?_, Text.increasing_sorted registered.order⟩
    rw [Registry.mem_names_iff, Registry.contains, unknown]
    exact Bool.false_ne_true
  typeMismatch _ _ h := nomatch h

/-- What is said of a leaf with a fault is so. -/
theorem LeafFault.truthful (registered : registry.WellFormed) {index : Nat} {call : PlannedCall}
    {input : Json} {place : Location} {text : String} {cause : ViolationCause}
    (fault : LeafFault registry plan index input place text cause)
    (called : plan.calls[index]? = some call) (meant : Reference.looksLike text = true)
    (stands : (Json.obj call.arguments).at? place = some (.str text)) :
    Truthful registry plan ⟨index, place.text, text, cause⟩ where
  call := by
    refine ⟨index, call, rfl, called, fun empty => ?_, fun _ => ⟨place, rfl, stands⟩⟩
    exact absurd empty (Reference.ne_empty_of_meant meant)
  outOfBounds referenced h := by
    cases fault with
    | outOfBounds parsed late =>
        cases h
        have earlier : (0 : Int) < index ↔ ¬ (index : Int) = 0 := by omega
        refine ⟨Int.ofNat_le.2 late, ?_⟩
        simp only [Violation.maxValidIndex, earlier, ite_not]
    | malformed parsed => cases h
    | fieldNotFound parsed earlier called missing => cases h
    | typeMismatch parsed earlier called declared types expected differ => cases h
  fieldNotFound tool field available h := by
    cases fault with
    | fieldNotFound parsed earlier called missing =>
        cases h
        exact listed_of_field_missing (distinct_outputSchema registered _) missing
    | malformed parsed => cases h
    | outOfBounds parsed late => cases h
    | typeMismatch parsed earlier called declared types expected differ => cases h
  typeMismatch expected found h := by
    cases fault with
    | @typeMismatch reference source field declared wanted parsed earlier called found' types
        expected differ =>
        cases h
        intro same
        obtain rfl := TypeSet.eq_of_display_eq same
        exact differ fun word => Iff.rfl
    | malformed parsed => cases h
    | outOfBounds parsed late => cases h
    | fieldNotFound parsed earlier called missing => cases h

end Validation

namespace Sample

theorem distinct_typed (type : String) : (typed type).Distinct :=
  .obj (by simp [Members.keys]) (List.forall_mem_singleton.2 (.str type))

theorem wellFormed_registry : registry.WellFormed := by
  refine .ofList (List.forall_mem_cons.2 ⟨?_, List.forall_mem_singleton.2 ?_⟩)
  · have rows : (Json.obj listed).Distinct :=
      .obj (by decide) (List.forall_mem_cons.2
        ⟨distinct_typed _, List.forall_mem_singleton.2 (distinct_typed _)⟩)
    exact .obj (by decide) (List.forall_mem_singleton.2 rows)
  · exact .obj List.nodup_nil (List.forall_mem_nil _)

theorem distinct_plan (text : String) :
    ∀ call ∈ (plan text).calls, (Json.obj call.arguments).Distinct := by
  refine List.forall_mem_cons.2 ⟨?_, List.forall_mem_singleton.2 ?_⟩
  · exact .obj List.nodup_nil (List.forall_mem_nil _)
  · exact .obj (by simp [Members.keys]) (List.forall_mem_singleton.2 (.str text))

end Sample

/-- Whatever is wrong with a plan, what the violation says of it is so. The keys of objects are
distinct, in the schemas and in the arguments. -/
theorem validate_truthful {registry : Registry} {plan : ToolCalls} {v : Violation}
    (registered : registry.WellFormed)
    (distinct : ∀ call ∈ plan.calls, (Json.obj call.arguments).Distinct)
    (rejected : validate plan registry = .error (.violation v)) :
    Validation.Truthful registry plan v := by
  obtain ⟨site, flaw, -⟩ := Validation.validate_eq_error_iff_first.1 rejected
  cases flaw with
  | tool called unknown => exact Validation.truthful_tool registered called unknown
  | leaf called known stands meant flaw =>
      cases flaw with
      | fault fault =>
          have distinct := distinct _ (List.mem_of_getElem? called)
          have stands := distinct.at?_of_mem_leaves (List.mem_of_getElem? stands)
          exact fault.truthful registered called meant stands

/-- A field that a tool does not declare is reported among those that it does. -/
theorem validate_truthful_title :
    Sample.registry.WellFormed ∧
      (∀ call ∈ (Sample.plan "$0.output.title").calls, (Json.obj call.arguments).Distinct) ∧
      ∃ v, v.cause = .fieldNotFound "list" "title" ["rows", "total"] ∧
        validate (Sample.plan "$0.output.title") Sample.registry = .error (.violation v) ∧
        Validation.Truthful Sample.registry (Sample.plan "$0.output.title") v := by
  have order : Text.sorted ["rows", "total"] = ["rows", "total"] :=
    List.mergeSort_of_pairwise (by decide)
  have rejected : validate (Sample.plan "$0.output.title") Sample.registry = .error (.violation
      ⟨1, "size", "$0.output.title", .fieldNotFound "list" "title" ["rows", "total"]⟩) := by
    rw [← order]
    rfl
  exact ⟨Sample.wellFormed_registry, Sample.distinct_plan _, _, rfl, rejected,
    validate_truthful Sample.wellFormed_registry (Sample.distinct_plan _) rejected⟩

end CallPlan
