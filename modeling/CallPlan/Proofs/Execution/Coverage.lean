import CallPlan.Proofs.Execution.Resolution
import CallPlan.Proofs.Reference.Substitution

/-!
# CallPlan.Proofs.Execution.Coverage

What validation checks is what a run replaces.

* Substitution replaces the references that are found in a value, in order, and all of these were
  meant as references (`exists_substitutes`).
* In an accepted plan everything that was meant as a reference is one, and has been checked
  (`checked_of_validate`). So for the arguments of its calls the leaves that are checked and the
  leaves that are replaced are the same, and in a run a tool is handed a value in place of each of
  them (`Covered`).
-/

namespace CallPlan

namespace Validation

variable {registry : Registry} {plan : ToolCalls} {k : Nat} {call : PlannedCall}

/-- In an accepted plan every leaf that was meant as a reference is one, which has been checked. -/
theorem checked_of_validate (accepted : validate plan registry = .ok ())
    (called : plan.calls[k]? = some call) :
    ∃ schema, registry.lookup call.tool = some schema ∧
      ∀ place text, (place, text) ∈ (Json.obj call.arguments).leaves →
        Reference.looksLike text = true →
        ∃ reference, Reference.parse text = .ok (some reference) ∧
          checkReference registry plan k (.obj schema.input) place reference = .ok () := by
  have passes := validate_eq_ok_iff.1 accepted k call called
  cases known : registry.lookup call.tool with
  | none =>
      rw [checkCall, known] at passes
      cases passes
  | some schema =>
      rw [checkCall_eq_forM known, forM_eq_ok_iff] at passes
      refine ⟨schema, rfl, fun place text hleaf meant => ?_⟩
      have passes := passes (place, text) hleaf
      rw [checkLeaf_of_meant meant, checkText] at passes
      split at passes
      · cases passes
      · cases passes
      · next reference hparse => exact ⟨reference, hparse, passes⟩

/-- In an accepted plan the references of a call are the leaves that were meant as references. -/
theorem find_of_validate (accepted : validate plan registry = .ok ())
    (called : plan.calls[k]? = some call) :
    ∃ references, Reference.find (.obj call.arguments) = .ok references ∧
      references.map Reference.asLeaf = Reference.candidates (.obj call.arguments) := by
  obtain ⟨schema, -, checked⟩ := checked_of_validate accepted called
  have parsed : ∀ leaf ∈ (Json.obj call.arguments).leaves, Reference.looksLike leaf.2 = true →
      ∃ reference, Reference.parse leaf.2 = .ok (some reference) := by
    intro leaf hleaf meant
    obtain ⟨reference, hparse, -⟩ := checked leaf.1 leaf.2 hleaf meant
    exact ⟨reference, hparse⟩
  have listed : ∃ references, Reference.find (.obj call.arguments) = .ok references := by
    refine Reference.exists_amongLeaves fun leaf hleaf long hparse => ?_
    by_cases meant : Reference.looksLike leaf.2 = true
    · obtain ⟨reference, hparse'⟩ := parsed leaf hleaf meant
      rw [hparse] at hparse'
      cases hparse'
    · rw [Reference.parse_of_not_meant meant] at hparse
      cases hparse
  obtain ⟨references, listed⟩ := listed
  refine ⟨references, listed, Reference.map_asLeaf_eq_filter listed fun leaf hleaf meant none => ?_⟩
  obtain ⟨reference, hparse⟩ := parsed leaf hleaf meant
  rw [none] at hparse
  cases hparse

end Validation

/-- What a tool is handed for the arguments of a call: each text that was meant as a reference is
replaced by the value of the reference, and nothing else is. -/
structure HandedOver (call : PlannedCall) (results : List ExecutionResult) (arguments : Members) :
    Prop where
  substitutes : ∃ references,
    Substitutes (.obj call.arguments) results references (.obj arguments) ∧
      references.map Reference.asLeaf = Reference.candidates (.obj call.arguments)
  unreplaced : ∀ place text, (Json.obj call.arguments).at? place = some (.str text) →
    Reference.looksLike text = true →
    ∃ reference value, Reference.parse text = .ok (some reference) ∧
      reference.resolve results = .ok value ∧ (Json.obj arguments).at? place = some value

/-- The leaves of a plan that are checked are those that are replaced. -/
structure Covered (registry : Registry) (plan : ToolCalls) : Prop where
  /-- What is looked at in the check of a call is what is found as references in it. -/
  listed : ∀ call ∈ plan.calls, ∃ references,
    Reference.find (.obj call.arguments) = .ok references ∧
      references.map Reference.asLeaf = Reference.candidates (.obj call.arguments)
  /-- Every reference that is found has been checked. -/
  checked : ∀ (k : Nat) (call : PlannedCall) (references : List (Location × Reference)),
    plan.calls[k]? = some call → Reference.find (.obj call.arguments) = .ok references →
    ∃ schema, registry.lookup call.tool = some schema ∧
      ∀ place reference, (place, reference) ∈ references →
        Validation.checkReference registry plan k (.obj schema.input) place reference = .ok ()
  /-- In every run a tool is handed the arguments of its call with exactly these leaves replaced,
  by their values after the calls before. -/
  handed : ∀ {σ ω : Type} (host : Host σ) (deadline : Option Deadline)
    (tracker : Option (Tracker ω)) (world : σ) (k : Nat) (invocation : Invocation),
    (invocations host plan deadline tracker world)[k]? = some invocation →
    ∃ call log results, plan.calls[k]? = some call ∧ invocation.tool = call.tool ∧
      log <+: invocations host plan deadline tracker world ∧
      Execution.Answered (plan.calls.take k) log results ∧
      HandedOver call results invocation.arguments

theorem handedOver_of_validate {registry : Registry} {plan : ToolCalls} {k : Nat}
    {call : PlannedCall} (accepted : validate plan registry = .ok ())
    (called : plan.calls[k]? = some call) {results : List ExecutionResult} {arguments : Members}
    (resolved : substituteArguments call.arguments results = .ok arguments) :
    HandedOver call results arguments := by
  obtain ⟨references, listed, same⟩ := Validation.find_of_validate accepted called
  have rebuilt : substitute (.obj call.arguments) results = .ok (.obj arguments) :=
    map_eq_ok_iff.2 ⟨arguments, resolved, rfl⟩
  obtain ⟨references', listed', valued⟩ := substitute_eq_ok_iff.1 ⟨_, rebuilt⟩
  obtain rfl := Except.ok.inj (listed.symm.trans listed')
  obtain ⟨rebuilt', substitutes⟩ := exists_substitutes listed valued
  obtain rfl := Except.ok.inj (rebuilt.symm.trans substitutes.substituted)
  refine ⟨⟨references, substitutes, same⟩, fun place text hat meant => ?_⟩
  obtain ⟨schema, -, checked⟩ := Validation.checked_of_validate accepted called
  obtain ⟨reference, hparse, -⟩ := checked place text (Json.mem_leaves_of_at? hat) meant
  obtain ⟨-, found, hfound, hat'⟩ := substitutes.replacedAt place text reference hat hparse
  exact ⟨reference, found, hparse, hfound, hat'⟩

theorem covered_of_validate {registry : Registry} {plan : ToolCalls}
    (accepted : validate plan registry = .ok ()) : Covered registry plan where
  listed call hcall := by
    obtain ⟨k, called⟩ := List.mem_iff_getElem?.1 hcall
    exact Validation.find_of_validate accepted called
  checked k call references called listed := by
    obtain ⟨schema, known, checked⟩ := Validation.checked_of_validate accepted called
    refine ⟨schema, known, fun place reference hmem => ?_⟩
    obtain ⟨text, hleaf, hparse⟩ := (Reference.mem_amongLeaves_iff listed).1 hmem
    obtain ⟨reference', hparse', passes⟩ :=
      checked place text hleaf (Reference.meant_of_parse hparse)
    rw [hparse] at hparse'
    cases hparse'
    exact passes
  handed host deadline tracker world k invocation invoked := by
    obtain ⟨call, log, results, called, before, answered, htool, resolved⟩ :=
      Execution.answered_of_invoked invoked
    exact ⟨call, log, results, called, htool, before, answered,
      handedOver_of_validate accepted called resolved⟩

/-- Substitution replaces exactly the references that are found, all of which were meant as such;
and in an accepted plan everything that was meant as a reference is found, has been checked, and is
replaced before a tool is handed it. -/
theorem substitution_covered :
    (∀ (value : Json) (results : List ExecutionResult),
      (∀ leaf ∈ value.leaves, Reference.ShortIndex leaf.2) →
      (∀ leaf ∈ value.leaves, ∀ reference, Reference.parse leaf.2 = .ok (some reference) →
        ∃ found, reference.resolve results = .ok found) →
      ∃ references rebuilt, Substitutes value results references rebuilt) ∧
    ∀ (plan : ToolCalls) (registry : Registry), validate plan registry = .ok () →
      Covered registry plan := by
  refine ⟨fun value results short valued => ?_, fun plan registry => covered_of_validate⟩
  obtain ⟨references, listed⟩ := Reference.exists_amongLeaves fun leaf hleaf long =>
    (short leaf hleaf).parse_ne_error long
  have resolved : ∀ leaf ∈ references, ∃ found, leaf.2.resolve results = .ok found := by
    intro leaf hleaf
    obtain ⟨text, hmem, hparse⟩ := (Reference.mem_amongLeaves_iff listed).1 hleaf
    exact valued _ hmem leaf.2 hparse
  obtain ⟨rebuilt, substitutes⟩ := exists_substitutes listed resolved
  exact ⟨references, rebuilt, substitutes⟩

namespace Sample

/-- Arguments of which one text is a reference and one was meant as such. -/
def halfReferring : Json := .obj [("size", .str "$0.output.total"), ("note", .str "$0.output.")]

/-- The record of a list without rows. -/
def emptyList : ExecutionResult := ⟨0, "list", noRows, [], false, 0⟩

end Sample

theorem substitution_covered_halfReferring :
    (∀ leaf ∈ Sample.halfReferring.leaves, Reference.ShortIndex leaf.2) ∧
      (∀ leaf ∈ Sample.halfReferring.leaves, ∀ reference,
        Reference.parse leaf.2 = .ok (some reference) →
        ∃ found, reference.resolve [Sample.emptyList] = .ok found) ∧
      (∃ references rebuilt,
        Substitutes Sample.halfReferring [Sample.emptyList] references rebuilt) ∧
      validate (Sample.plan "$0.output.total") Sample.registry = .ok () ∧
      Covered Sample.registry (Sample.plan "$0.output.total") := by
  have leaves : Sample.halfReferring.leaves =
      [([.key "size"], "$0.output.total"), ([.key "note"], "$0.output.")] := by rfl
  have split : Reference.split? "$0.output.total".toList
      = some (['0'], ['t', 'o', 't', 'a', 'l']) := by rfl
  have splitBare : Reference.split? "$0.output.".toList = some (['0'], []) := by rfl
  have short : ∀ leaf ∈ Sample.halfReferring.leaves, Reference.ShortIndex leaf.2 := by
    simp only [leaves, List.forall_mem_cons]
    exact ⟨.of_split split (by decide), .of_split splitBare (by decide), by simp⟩
  have parsed : Reference.parse "$0.output.total" = .ok (some ⟨0, ["total"], "$0.output.total"⟩) := by
    rfl
  have parsedBare : Reference.parse "$0.output." = .ok none := by rfl
  have valued : ∀ leaf ∈ Sample.halfReferring.leaves, ∀ reference,
      Reference.parse leaf.2 = .ok (some reference) →
      ∃ found, reference.resolve [Sample.emptyList] = .ok found := by
    simp only [leaves, List.forall_mem_cons, parsed, parsedBare]
    refine ⟨fun reference h => ?_, fun reference h => ?_, fun leaf h => nomatch h⟩
    · cases h
      exact ⟨.int 0, rfl⟩
    · cases h
  have accepted : validate (Sample.plan "$0.output.total") Sample.registry = .ok () := by rfl
  exact ⟨short, valued, substitution_covered.1 _ _ short valued, accepted,
    substitution_covered.2 _ _ accepted⟩

end CallPlan
