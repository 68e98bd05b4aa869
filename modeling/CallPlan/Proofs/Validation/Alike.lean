import CallPlan.Proofs.Schema.Alike
import CallPlan.Proofs.Validation.Exact

/-!
# CallPlan.Proofs.Validation.Alike

Validation does not depend on how schemas are written down.

* `Validation.SameVerdict` says when two checks come to the same: both pass, both find the same
  violation, or both are given up for the same reason. Only where a tool is not registered, each
  registry is reported with its own names.
* The same verdict on each of some checks is the same verdict on all of them (`SameVerdict.forM`).
  So it is carried from the types of a field up to a whole plan, one lemma for each function of the
  check.
* `validate_alike` compares two registries in which the tools of a plan are declared alike, whatever
  other tools there are.
-/

namespace CallPlan

namespace Validation

/-- Two checks, with one registry each, come to the same. -/
inductive SameVerdict (registry registry' : Registry) :
    Except Rejection Unit → Except Rejection Unit → Prop where
  | accepted : SameVerdict registry registry' (.ok ()) (.ok ())
  /-- All that is said of a violation is the same. -/
  | violation (v : Violation) :
      SameVerdict registry registry' (.error (.violation v)) (.error (.violation v))
  /-- A tool is registered in neither of them. -/
  | unregistered (index : Nat) {tool : String} (unknown : registry.lookup tool = none)
      (unknown' : registry'.lookup tool = none) :
      SameVerdict registry registry'
        (.error (.violation ⟨index, "", "", .fieldNotFound tool tool registry.names⟩))
        (.error (.violation ⟨index, "", "", .fieldNotFound tool tool registry'.names⟩))
  | longIndex (long : LongIndex) :
      SameVerdict registry registry' (.error (.unchecked (.longIndex long)))
        (.error (.unchecked (.longIndex long)))
  /-- A type that is listed in both is too long to be written. -/
  | longType (long : LongNumber) :
      SameVerdict registry registry' (.error (.unchecked (.longType long)))
        (.error (.unchecked (.longType long)))
  /-- The schema of a field is no object, as it is written in either of them. -/
  | fieldSchema (field other : Json) :
      SameVerdict registry registry' (.error (.unchecked (.fieldSchema field)))
        (.error (.unchecked (.fieldSchema other)))

section
variable {registry registry' : Registry}

/-- Checks that come to the same one by one come to the same one after the other. -/
theorem SameVerdict.forM {α : Type} {xs : List α} {check check' : α → Except Rejection Unit}
    (each : ∀ x ∈ xs, SameVerdict registry registry' (check x) (check' x)) :
    SameVerdict registry registry' (forM xs check) (forM xs check') := by
  induction xs with
  | nil => exact .accepted
  | cons x xs ih =>
      obtain ⟨first, others⟩ := List.forall_mem_cons.1 each
      rw [List.forM_cons, List.forM_cons]
      generalize check x = verdict at first ⊢
      generalize check' x = verdict' at first ⊢
      cases first with
      | accepted => exact ih others
      | violation v => exact .violation v
      | unregistered index unknown unknown' => exact .unregistered index unknown unknown'
      | longIndex long => exact .longIndex long
      | longType => exact .longType _
      | fieldSchema field other => exact .fieldSchema field other

variable {plan : ToolCalls} {index : Nat} {input input' : Json} {place : Location}

theorem checkTypes_alike {field field' : Json} (fields : Schema.Alike field field')
    (inputs : Schema.Alike input input') (reference : Reference) :
    SameVerdict registry registry' (checkTypes index place reference field input)
      (checkTypes index place reference field' input') := by
  by_cases object : ∃ members, field = .obj members
  · obtain ⟨members', rfl⟩ := fields.object_iff.1 object
    obtain ⟨members, rfl⟩ := object
    have types := fields.ofDeclared?_eq
    rw [Json.get?, Json.get?] at types
    rw [checkTypes_obj, checkTypes_obj, types, inputs.typeAt_eq]
    split
    · exact .longType _
    · exact .longType _
    · split
      · exact .accepted
      · exact .violation _
    · exact .accepted
  · have odd : ∀ members, field ≠ .obj members := fun members e => object ⟨members, e⟩
    have odd' : ∀ members, field' ≠ .obj members := fun members e =>
      object (fields.object_iff.2 ⟨members, e⟩)
    rw [checkTypes_of_odd odd, checkTypes_of_odd odd']
    exact .fieldSchema _ _

/-- The tools that a plan calls are declared alike, or in neither of two registries. -/
def DeclareAlike (plan : ToolCalls) (registry registry' : Registry) : Prop :=
  ∀ call ∈ plan.calls,
    Option.Rel ToolSchema.Alike (registry.lookup call.tool) (registry'.lookup call.tool)

theorem outputSchema_alike (alike : DeclareAlike plan registry registry') {call : PlannedCall}
    (called : call ∈ plan.calls) :
    Schema.Alike (outputSchema registry call.tool) (outputSchema registry' call.tool) := by
  unfold outputSchema
  rcases Schema.rel_cases (alike call called) with ⟨schema, other, e, e', tools⟩ | ⟨e, e'⟩
  · rw [e, e']
    exact tools.output
  · rw [e, e']
    exact .refl _

theorem checkReference_alike (alike : DeclareAlike plan registry registry')
    (inputs : Schema.Alike input input') (within : index ≤ plan.calls.length)
    (reference : Reference) :
    SameVerdict registry registry' (checkReference registry plan index input place reference)
      (checkReference registry' plan index input' place reference) := by
  by_cases earlier : reference.source < index
  · have called := List.getElem?_eq_getElem (Nat.lt_of_lt_of_le earlier within)
    rw [checkReference_of_lt earlier called, checkReference_of_lt earlier called]
    have search := (outputSchema_alike alike (List.mem_of_getElem? called)).field reference.path
    generalize Schema.field (outputSchema registry _) reference.path = first at search ⊢
    generalize Schema.field (outputSchema registry' _) reference.path = second at search ⊢
    cases search with
    | found fields => exact checkTypes_alike fields inputs reference
    | longType => exact .longType _
    | missing names =>
        dsimp only
        rw [Text.sorted_eq_of_perm names]
        exact .violation _
  · rw [checkReference, checkReference, if_neg earlier, if_neg earlier]
    exact .violation _

theorem checkLeaf_alike (alike : DeclareAlike plan registry registry')
    (inputs : Schema.Alike input input') (within : index ≤ plan.calls.length)
    (leaf : Location × String) :
    SameVerdict registry registry' (checkLeaf registry plan index input leaf)
      (checkLeaf registry' plan index input' leaf) := by
  by_cases meant : Reference.looksLike leaf.2 = true
  · rw [checkLeaf_of_meant meant, checkLeaf_of_meant meant, checkText, checkText]
    split
    · exact .longIndex _
    · exact .violation _
    · exact checkReference_alike alike inputs within _
  · rw [checkLeaf, checkLeaf, if_neg meant, if_neg meant]
    exact .accepted

theorem checkCall_alike (alike : DeclareAlike plan registry registry') {call : PlannedCall}
    (called : plan.calls[index]? = some call) :
    SameVerdict registry registry' (checkCall registry plan index call)
      (checkCall registry' plan index call) := by
  rcases Schema.rel_cases (alike call (List.mem_of_getElem? called)) with
    ⟨schema, other, known, known', tools⟩ | ⟨unknown, unknown'⟩
  · rw [checkCall_eq_forM known, checkCall_eq_forM known']
    exact .forM fun leaf _ => checkLeaf_alike alike tools.input (le_length_of_called called) leaf
  · rw [checkCall, checkCall, unknown, unknown']
    exact .unregistered index unknown unknown'

end

end Validation

namespace Sample

/-- The properties of the output of `list`, in another order, with types that are listed. -/
def relisted : Members :=
  [("total", .obj [("type", .arr [.str "integer", .str "integer"])]),
    ("rows", .obj [("type", .arr [.str "array"])])]

/-- The schema of an object with a size. -/
def sized : Members := [("type", .str "object"), ("properties", .obj [("size", typed "integer")])]

/-- `list` and `page`, the latter with a schema of two entries. -/
def written : Registry := .ofList [list, ⟨"page", "", sized, []⟩]

/-- The same tools in another order, with schemas that are written in another way. -/
def rewritten : Registry :=
  .ofList [⟨"page", "Turns.", sized.reverse, []⟩, ⟨"list", "", [], [("properties", .obj relisted)]⟩]

theorem alike_typed {type : String} {entries : List Json}
    (listed : ∀ entry, entry = .str type ↔ entry ∈ entries) :
    Schema.Alike (typed type) (.obj [("type", .arr entries)]) := by
  refine .of_obj ?_ (.refl _) (fun _ => .none) .none
  exact fun entry => List.mem_singleton.trans (listed entry)

theorem alike_relisted :
    Schema.Alike (.obj list.output) (.obj [("properties", .obj relisted)]) := by
  have listed_eq : Schema.properties (.obj list.output) = listed := by rfl
  have relisted_eq : Schema.properties (.obj [("properties", .obj relisted)]) = relisted := by rfl
  refine .of_obj (fun _ => Iff.rfl) (.swap _ _ _) (fun key => ?_) .none
  rw [listed_eq, relisted_eq, listed, relisted]
  simp only [Members.get?_cons, Members.get?_nil]
  by_cases rows : key = "rows"
  · have other : key ≠ "total" := by simp [rows]
    rw [if_pos rows, if_neg other, if_pos rows]
    exact .some (alike_typed (by simp))
  · rw [if_neg rows, if_neg rows]
    split
    · exact .some (alike_typed (by simp))
    · exact .none

theorem declareAlike (text : String) :
    Validation.DeclareAlike (plan text) written rewritten := by
  have inputs : Schema.Alike (.obj sized) (.obj sized.reverse) :=
    .of_perm sized.reverse_perm.symm (by decide)
  refine List.forall_mem_cons.2 ⟨?_, List.forall_mem_singleton.2 ?_⟩
  · exact .some ⟨.refl _, alike_relisted⟩
  · exact .some ⟨inputs, .refl _⟩

end Sample

/-- A plan is accepted with two registries, or rejected for the same reason, if the schemas of the
tools that it calls differ only in how they are written down. Where such a tool is not registered,
the names that are reported are those of each registry. -/
theorem validate_alike {registry registry' : Registry} {plan : ToolCalls}
    (alike : Validation.DeclareAlike plan registry registry') :
    Validation.SameVerdict registry registry' (validate plan registry)
      (validate plan registry') := by
  rw [validate, validate, Validation.checkCallsFrom_eq_forM, Validation.checkCallsFrom_eq_forM]
  refine .forM fun item hitem => ?_
  exact Validation.checkCall_alike alike (List.mk_mem_zipIdx_iff_getElem?.1 hitem)

/-- Types that do not match are reported in the same words, however often they are listed. -/
theorem validate_alike_rewritten :
    Validation.DeclareAlike (Sample.plan "$0.output.rows") Sample.written Sample.rewritten ∧
      validate (Sample.plan "$0.output.rows") Sample.written = .error (.violation
        ⟨1, "size", "$0.output.rows", .typeMismatch (.str "integer") (.str "array")⟩) ∧
      Validation.SameVerdict Sample.written Sample.rewritten
        (validate (Sample.plan "$0.output.rows") Sample.written)
        (validate (Sample.plan "$0.output.rows") Sample.rewritten) :=
  ⟨Sample.declareAlike _, by rfl, validate_alike (Sample.declareAlike _)⟩

end CallPlan
