import CallPlan.Resolve
import CallPlan.Proofs.Json.Leaves
import CallPlan.Proofs.Validation.Fault

/-!
# CallPlan.Proofs.Reference.Substitution

Which leaves of a value substitution replaces.

* `substituteNoting` is substitution that notes every leaf it replaces, in the order in which it
  does. It rebuilds the same value (`substituteNoting_fst`).
* What it notes are the references that `Reference.find` lists (`exists_substituteNoting`); and
  substitution comes to an end if and only if these can be listed and all have values
  (`substitute_eq_ok_iff`).
* `Substitutes` packages this with what is left at each place: the value of a reference where one
  stood, and the text itself everywhere else.
-/

namespace CallPlan

/-- A leaf that was replaced: where it stood, what it referred to, and what took its place. -/
structure Replacement where
  place : Location
  reference : Reference
  value : Json

/-- The leaf that was replaced. -/
def Replacement.leaf (replacement : Replacement) : Location × Reference :=
  (replacement.place, replacement.reference)

namespace Reference

/-- The value a text stands for, with a note if it takes the place of the text. -/
def resolveNoting (results : List ExecutionResult) (place : Location) (text : String) :
    StateT (List Replacement) (Except Unresolved) Json := fun notes =>
  match parse text with
  | .error index => .error (.longIndex index)
  | .ok none => .ok (.str text, notes)
  | .ok (some reference) =>
    (reference.resolve results).map fun value => (value, notes ++ [⟨place, reference, value⟩])

end Reference

/-- Substitution with a note of every leaf that it replaces, in order. -/
def substituteNoting (value : Json) (results : List ExecutionResult) :
    Except Unresolved (Json × List Replacement) :=
  (value.mapLeavesM (Reference.resolveNoting results)).run []

/-! ### Notes change nothing -/

/-- A computation that takes notes gives what one without notes gives. -/
def Forgets {α : Type} (noting : StateT (List Replacement) (Except Unresolved) α)
    (plain : Except Unresolved α) : Prop :=
  ∀ notes, Prod.fst <$> noting.run notes = plain

theorem relates_forgets : Json.Relates @Forgets where
  pure _ _ := rfl
  map {_ _ x y} f h notes := by
    rw [← h notes, StateT.run_map]
    cases x.run notes <;> rfl
  bind {_ _ x y f g} h hf notes := by
    rw [← h notes, StateT.run_bind]
    cases x.run notes with
    | error e => rfl
    | ok found => exact hf found.1 found.2

theorem Reference.resolveNoting_forgets (results : List ExecutionResult) (place : Location)
    (text : String) :
    Forgets (resolveNoting results place text) (resolveText results text) := by
  intro notes
  simp only [StateT.run, resolveNoting, resolveText]
  cases parse text with
  | error index => rfl
  | ok reference? =>
      cases reference? with
      | none => rfl
      | some reference =>
          dsimp only
          cases reference.resolve results <;> rfl

/-- Substitution rebuilds the same value whether it takes notes or not. -/
theorem substituteNoting_fst (value : Json) (results : List ExecutionResult) :
    Prod.fst <$> substituteNoting value results = substitute value results :=
  relates_forgets.mapLeavesM (Reference.resolveNoting_forgets results) value []

/-! ### References that are found -/

namespace Reference

variable {leaves : List (Location × String)} {references : List (Location × Reference)}

/-- References can be listed if no index is too long. -/
theorem exists_amongLeaves (h : ∀ leaf ∈ leaves, ∀ long, parse leaf.2 ≠ .error long) :
    ∃ references, amongLeaves leaves = .ok references := by
  induction leaves with
  | nil => exact ⟨[], rfl⟩
  | cons leaf rest ih =>
      obtain ⟨references, hrest⟩ := ih fun leaf hleaf => h leaf (List.mem_cons_of_mem _ hleaf)
      obtain ⟨place, text⟩ := leaf
      cases hparse : parse text with
      | error long => exact absurd hparse (h _ (List.mem_cons_self ..) long)
      | ok reference? => exact ⟨_, by simp only [amongLeaves, hparse, hrest]; rfl⟩

/-- The first leaf is listed if it is a reference, and the others in any case. -/
theorem amongLeaves_cons_eq_ok {place : Location} {text : String}
    (h : amongLeaves ((place, text) :: leaves) = .ok references) :
    ∃ rest, amongLeaves leaves = .ok rest ∧
      ((parse text = .ok none ∧ references = rest) ∨
        ∃ reference, parse text = .ok (some reference) ∧
          references = (place, reference) :: rest) := by
  rw [amongLeaves] at h
  obtain ⟨reference?, hparse, h⟩ := bind_eq_ok_iff.1 h
  obtain ⟨rest, hrest, h⟩ := bind_eq_ok_iff.1 h
  refine ⟨rest, hrest, ?_⟩
  cases reference? with
  | none => exact Or.inl ⟨hparse, (Except.ok.inj h).symm⟩
  | some reference => exact Or.inr ⟨reference, hparse, (Except.ok.inj h).symm⟩

/-- A reference is listed where a leaf is one. -/
theorem mem_amongLeaves_iff (h : amongLeaves leaves = .ok references) {place : Location}
    {reference : Reference} :
    (place, reference) ∈ references ↔
      ∃ text, (place, text) ∈ leaves ∧ parse text = .ok (some reference) := by
  induction leaves generalizing references with
  | nil =>
      obtain rfl : [] = references := Except.ok.inj h
      simp
  | cons leaf rest ih =>
      obtain ⟨place', text'⟩ := leaf
      obtain ⟨others, hrest, ⟨hparse, rfl⟩ | ⟨reference', hparse, rfl⟩⟩ := amongLeaves_cons_eq_ok h
      · rw [ih hrest]
        refine exists_congr fun text => and_congr_left fun hparse' => ?_
        have differs : (place, text) ≠ (place', text') := by
          rintro ⟨rfl, rfl⟩
          rw [hparse] at hparse'
          cases hparse'
        simp [differs]
      · rw [List.mem_cons, ih hrest]
        constructor
        · rintro (e | ⟨text, hmem, hparse'⟩)
          · cases e
            exact ⟨text', List.mem_cons_self .., hparse⟩
          · exact ⟨text, List.mem_cons_of_mem _ hmem, hparse'⟩
        · rintro ⟨text, hmem, hparse'⟩
          rcases List.mem_cons.1 hmem with e | hmem
          · cases e
            rw [hparse] at hparse'
            cases hparse'
            exact Or.inl rfl
          · exact Or.inr ⟨text, hmem, hparse'⟩

/-- A listed reference with the text it was read from. -/
def asLeaf (leaf : Location × Reference) : Location × String := (leaf.1, leaf.2.raw)

/-- References are listed in the order of the leaves that were meant as references. -/
theorem sublist_of_amongLeaves (h : amongLeaves leaves = .ok references) :
    (references.map asLeaf).Sublist (leaves.filter fun leaf => looksLike leaf.2) := by
  induction leaves generalizing references with
  | nil =>
      obtain rfl : [] = references := Except.ok.inj h
      exact .slnil
  | cons leaf rest ih =>
      obtain ⟨place, text⟩ := leaf
      obtain ⟨others, hrest, ⟨-, rfl⟩ | ⟨reference, hparse, rfl⟩⟩ := amongLeaves_cons_eq_ok h
      · exact (ih hrest).trans ((List.sublist_cons_self ..).filter _)
      · rw [List.filter_cons, if_pos (meant_of_parse hparse), List.map_cons, asLeaf,
          raw_of_parse hparse]
        exact (ih hrest).cons_cons _

/-- Where every leaf that was meant as a reference is one, all of these are listed. -/
theorem map_asLeaf_eq_filter (h : amongLeaves leaves = .ok references)
    (parsed : ∀ leaf ∈ leaves, looksLike leaf.2 = true → parse leaf.2 ≠ .ok none) :
    references.map asLeaf = leaves.filter fun leaf => looksLike leaf.2 := by
  induction leaves generalizing references with
  | nil =>
      obtain rfl : [] = references := Except.ok.inj h
      rfl
  | cons leaf rest ih =>
      obtain ⟨place, text⟩ := leaf
      have parsedRest : ∀ leaf ∈ rest, looksLike leaf.2 = true → parse leaf.2 ≠ .ok none :=
        fun leaf hleaf => parsed leaf (List.mem_cons_of_mem _ hleaf)
      obtain ⟨others, hrest, ⟨hparse, rfl⟩ | ⟨reference, hparse, rfl⟩⟩ := amongLeaves_cons_eq_ok h
      · have notMeant : ¬ looksLike text = true := fun meant =>
          parsed _ (List.mem_cons_self ..) meant hparse
        rw [List.filter_cons, if_neg notMeant, ih hrest parsedRest]
      · rw [List.filter_cons, if_pos (meant_of_parse hparse), List.map_cons, asLeaf,
          raw_of_parse hparse, ih hrest parsedRest]

end Reference

/-! ### What is replaced -/

section
variable {results : List ExecutionResult}

/-- Notes are taken of the references among some leaves, in order, if these have values. -/
theorem forM_resolveNoting {leaves : List (Location × String)}
    {references : List (Location × Reference)}
    (listed : Reference.amongLeaves leaves = .ok references)
    (valued : ∀ leaf ∈ references, ∃ value, leaf.2.resolve results = .ok value)
    (notes : List Replacement) :
    ∃ replaced, replaced.map Replacement.leaf = references ∧
      (∀ replacement ∈ replaced,
        replacement.reference.resolve results = .ok replacement.value) ∧
      (forM leaves fun leaf =>
          (fun _ => ()) <$> Reference.resolveNoting results leaf.1 leaf.2).run notes
        = .ok ((), notes ++ replaced) := by
  induction leaves generalizing references notes with
  | nil =>
      obtain rfl : [] = references := Except.ok.inj listed
      exact ⟨[], rfl, by simp, by rw [List.append_nil]; rfl⟩
  | cons leaf rest ih =>
      obtain ⟨place, text⟩ := leaf
      rw [List.forM_cons, StateT.run_bind, StateT.run_map]
      obtain ⟨others, hrest, ⟨hparse, rfl⟩ | ⟨reference, hparse, rfl⟩⟩ :=
        Reference.amongLeaves_cons_eq_ok listed
      · obtain ⟨replaced, same, resolved, run⟩ := ih hrest valued notes
        have kept : (Reference.resolveNoting results place text).run notes
            = .ok (.str text, notes) := by
          simp only [StateT.run, Reference.resolveNoting, hparse]
        rw [kept]
        exact ⟨replaced, same, resolved, run⟩
      · obtain ⟨value, hvalue⟩ := valued _ (List.mem_cons_self ..)
        have noted : (Reference.resolveNoting results place text).run notes
            = .ok (value, notes ++ [⟨place, reference, value⟩]) := by
          simp only [StateT.run, Reference.resolveNoting, hparse, hvalue]
          rfl
        obtain ⟨replaced, same, resolved, run⟩ := ih hrest
          (fun leaf hleaf => valued leaf (List.mem_cons_of_mem _ hleaf))
          (notes ++ [⟨place, reference, value⟩])
        refine ⟨⟨place, reference, value⟩ :: replaced, by rw [List.map_cons, same]; rfl, ?_, ?_⟩
        · simpa [hvalue] using resolved
        · rw [noted]
          rw [List.append_assoc] at run
          exact run

/-- Where all references in a value have values, substitution replaces these and notes them. -/
theorem exists_substituteNoting {value : Json} {references : List (Location × Reference)}
    (listed : Reference.find value = .ok references)
    (valued : ∀ leaf ∈ references, ∃ value, leaf.2.resolve results = .ok value) :
    ∃ rebuilt replaced, substituteNoting value results = .ok (rebuilt, replaced) ∧
      replaced.map Replacement.leaf = references ∧
      ∀ replacement ∈ replaced,
        replacement.reference.resolve results = .ok replacement.value := by
  obtain ⟨replaced, same, resolved, run⟩ := forM_resolveNoting listed valued []
  rw [← Json.mapLeavesM_effects, StateT.run_map] at run
  obtain ⟨⟨rebuilt, notes⟩, hrun, e⟩ := map_eq_ok_iff.1 run
  obtain rfl : notes = replaced := (Prod.mk.inj e).2
  exact ⟨rebuilt, notes, hrun, same, resolved⟩

/-- Substitution gives a value if and only if the references can be listed and all have values. -/
theorem substitute_eq_ok_iff {value : Json} :
    (∃ rebuilt, substitute value results = .ok rebuilt) ↔
      ∃ references, Reference.find value = .ok references ∧
        ∀ leaf ∈ references, ∃ value, leaf.2.resolve results = .ok value := by
  constructor
  · rintro ⟨rebuilt, h⟩
    have effects := Json.mapLeavesM_effects (fun _ text => Reference.resolveText results text) value
    have passes : ∀ leaf ∈ value.leaves, ∃ field,
        Reference.resolveText results leaf.2 = .ok field := by
      intro leaf hleaf
      rw [show value.mapLeavesM (fun _ text => Reference.resolveText results text) = .ok rebuilt
        from h] at effects
      obtain ⟨field, hfield, -⟩ := map_eq_ok_iff.1 (forM_eq_ok_iff.1 effects.symm leaf hleaf)
      exact ⟨field, hfield⟩
    obtain ⟨references, listed⟩ := Reference.exists_amongLeaves fun leaf hleaf long hparse => by
      obtain ⟨field, hfield⟩ := passes leaf hleaf
      rw [Reference.resolveText, hparse] at hfield
      cases hfield
    refine ⟨references, listed, fun leaf hleaf => ?_⟩
    obtain ⟨text, hmem, hparse⟩ := (Reference.mem_amongLeaves_iff listed).1 hleaf
    obtain ⟨field, hfield⟩ := passes _ hmem
    rw [Reference.resolveText, hparse] at hfield
    exact ⟨field, hfield⟩
  · rintro ⟨references, listed, valued⟩
    obtain ⟨rebuilt, replaced, noting, -⟩ := exists_substituteNoting listed valued
    exact ⟨rebuilt, by rw [← substituteNoting_fst, noting]; rfl⟩

end

/-- What substitution does to a value: it replaces the references that are listed, and nothing
else. -/
structure Substitutes (value : Json) (results : List ExecutionResult)
    (references : List (Location × Reference)) (rebuilt : Json) : Prop where
  listed : Reference.find value = .ok references
  substituted : substitute value results = .ok rebuilt
  /-- The leaves that are replaced are the listed ones, in their order. -/
  replaced : ∃ replaced, substituteNoting value results = .ok (rebuilt, replaced) ∧
    replaced.map Replacement.leaf = references
  /-- All of them were meant as references. -/
  meant : (references.map Reference.asLeaf).Sublist (Reference.candidates value)
  /-- Where a reference stood, its value is found. -/
  replacedAt : ∀ place text reference, value.at? place = some (.str text) →
    Reference.parse text = .ok (some reference) →
    (place, reference) ∈ references ∧
      ∃ found, reference.resolve results = .ok found ∧ rebuilt.at? place = some found
  /-- Every other text is left as it is. -/
  keptAt : ∀ place text, value.at? place = some (.str text) →
    (∀ reference, (place, reference) ∉ references) → rebuilt.at? place = some (.str text)

/-- Where all references in a value have values, substitution replaces them and nothing else. -/
theorem exists_substitutes {value : Json} {results : List ExecutionResult}
    {references : List (Location × Reference)} (listed : Reference.find value = .ok references)
    (valued : ∀ leaf ∈ references, ∃ value, leaf.2.resolve results = .ok value) :
    ∃ rebuilt, Substitutes value results references rebuilt := by
  obtain ⟨rebuilt, replaced, noting, same, -⟩ := exists_substituteNoting listed valued
  have substituted : substitute value results = .ok rebuilt := by
    rw [← substituteNoting_fst, noting]
    rfl
  refine ⟨rebuilt, listed, substituted, ⟨replaced, noting, same⟩,
    Reference.sublist_of_amongLeaves listed, ?_, ?_⟩
  · intro place text reference hat hparse
    obtain ⟨found, hfound, hrebuilt⟩ := Json.at?_mapLeavesM substituted hat
    rw [Reference.resolveText, hparse] at hfound
    exact ⟨(Reference.mem_amongLeaves_iff listed).2 ⟨text, Json.mem_leaves_of_at? hat, hparse⟩,
      found, hfound, hrebuilt⟩
  · intro place text hat unlisted
    obtain ⟨found, hfound, hrebuilt⟩ := Json.at?_mapLeavesM substituted hat
    cases hparse : Reference.parse text with
    | error long =>
        rw [Reference.resolveText, hparse] at hfound
        cases hfound
    | ok reference? =>
        cases reference? with
        | none =>
            rw [Reference.resolveText, hparse] at hfound
            cases hfound
            exact hrebuilt
        | some reference =>
            have inside := (Reference.mem_amongLeaves_iff listed).2
              ⟨text, Json.mem_leaves_of_at? hat, hparse⟩
            exact absurd inside (unlisted reference)

end CallPlan
