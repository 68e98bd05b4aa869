import CallPlan.Planner.Extract

/-!
# CallPlan.Proofs.Planner.Blocks

Fenced blocks. A text has one if something stands between two fences (`HasBlock`), and a block is
found just if there is one (`fenced?_eq_none_iff`).
-/

namespace CallPlan

namespace Extract

/-- Something stands between two fences of a text. -/
def HasBlock (cs : List Char) : Prop :=
  ∃ before content after, content ≠ [] ∧ cs = before ++ (fence ++ (content ++ (fence ++ after)))

theorem HasBlock.behind {cs : List Char} (h : HasBlock cs) (before : List Char) :
    HasBlock (before ++ cs) := by
  obtain ⟨earlier, content, after, some, rfl⟩ := h
  exact ⟨before ++ earlier, content, after, some, by rw [List.append_assoc]⟩

/-! ## Blanks behind a fence -/

/-- A text is blanks and what follows all of them. -/
theorem exists_blanks (cs : List Char) : ∃ blanks body, cs = blanks ++ body ∧
    (∀ c ∈ blanks, Text.isBlank c = true) ∧ ∀ c ∈ body.head?, Text.isBlank c = false := by
  induction cs with
  | nil => exact ⟨[], [], rfl, nofun, nofun⟩
  | cons c rest ih =>
      cases blank : Text.isBlank c with
      | true =>
          obtain ⟨blanks, body, rfl, allBlank, noBlank⟩ := ih
          exact ⟨c :: blanks, body, rfl, List.forall_mem_cons.2 ⟨blank, allBlank⟩, noBlank⟩
      | false =>
          refine ⟨[], c :: rest, rfl, nofun, ?_⟩
          rintro _ ⟨⟩
          exact blank

theorem contentAfterBlanks?_append {blanks body : List Char}
    (allBlank : ∀ c ∈ blanks, Text.isBlank c = true)
    (noBlank : ∀ c ∈ body.head?, Text.isBlank c = false) :
    contentAfterBlanks? (blanks ++ body)
      = (content? body).or (blanks.getLast?.bind fun blank => content? (blank :: body)) := by
  have taken : (blanks ++ body).takeWhile Text.isBlank = blanks := by
    rw [List.takeWhile_append_of_pos allBlank]
    cases body with
    | nil => rw [List.takeWhile_nil, List.append_nil]
    | cons c rest =>
        have first := noBlank c rfl
        rw [List.takeWhile_cons_of_neg (by rw [first]; exact Bool.false_ne_true), List.append_nil]
  unfold contentAfterBlanks?
  dsimp only
  rw [taken, List.drop_left]
  cases content? body with
  | some content => rfl
  | none => cases blanks.getLast? <;> rfl

/-! ## A block that is found is one -/

theorem eq_of_beforeFence {cs before : List Char} (h : beforeFence cs = some before) :
    ∃ after, cs = before ++ (fence ++ after) := by
  induction cs generalizing before with
  | nil => cases h
  | cons c rest ih =>
      rw [beforeFence] at h
      split at h
      next here =>
        cases h
        obtain ⟨after, rest_eq⟩ := List.isPrefixOf_iff_prefix.1 here
        exact ⟨after, rest_eq.symm⟩
      next =>
        obtain ⟨before', found, rfl⟩ := Option.map_eq_some_iff.1 h
        obtain ⟨after, rfl⟩ := ih found
        exact ⟨after, rfl⟩

/-- A fence follows a text with some content, somewhere in another one. -/
def Encloses (cs content : List Char) : Prop :=
  content ≠ [] ∧ ∃ before after, cs = before ++ (content ++ (fence ++ after))

theorem Encloses.behind {cs content : List Char} (h : Encloses cs content) (before : List Char) :
    Encloses (before ++ cs) content := by
  obtain ⟨some, earlier, after, rfl⟩ := h
  exact ⟨some, before ++ earlier, after, by rw [List.append_assoc]⟩

theorem encloses_of_content? {cs content : List Char} (h : content? cs = some content) :
    Encloses cs content := by
  cases cs with
  | nil => cases h
  | cons c rest =>
      obtain ⟨before, found, rfl⟩ := Option.map_eq_some_iff.1 h
      obtain ⟨after, rfl⟩ := eq_of_beforeFence found
      exact ⟨nofun, [], after, rfl⟩

theorem encloses_of_contentAfterBlanks? {cs content : List Char}
    (h : contentAfterBlanks? cs = some content) : Encloses cs content := by
  obtain ⟨blanks, body, rfl, allBlank, noBlank⟩ := exists_blanks cs
  rw [contentAfterBlanks?_append allBlank noBlank, Option.or_eq_some_iff] at h
  rcases h with found | ⟨-, h⟩
  · exact (encloses_of_content? found).behind blanks
  · obtain ⟨blank, last, found⟩ := Option.bind_eq_some_iff.1 h
    obtain ⟨earlier, rfl⟩ := List.getLast?_eq_some_iff.1 last
    rw [← List.append_cons]
    exact (encloses_of_content? found).behind earlier

theorem encloses_of_blockContent? {cs content : List Char}
    (h : blockContent? cs = some content) : Encloses cs content := by
  unfold blockContent? at h
  dsimp only at h
  split at h
  next found =>
    cases h
    split at found
    next labelled =>
      rw [← List.prefix_iff_eq_append.1 (List.isPrefixOf_iff_prefix.1 labelled)]
      exact (encloses_of_contentAfterBlanks? found).behind label
    next => cases found
  next => exact encloses_of_contentAfterBlanks? h

theorem hasBlock_of_fenced? {cs content : List Char} (h : fenced? cs = some content) :
    HasBlock cs := by
  induction cs with
  | nil => cases h
  | cons c rest ih =>
      rw [fenced?] at h
      split at h
      next found =>
        cases h
        split at found
        next opens =>
          obtain ⟨some, between, after, rest_eq⟩ := encloses_of_blockContent? found
          rw [← List.prefix_iff_eq_append.1 (List.isPrefixOf_iff_prefix.1 opens), rest_eq]
          refine ⟨[], between ++ content, after, by simp [some], ?_⟩
          rw [List.nil_append, List.append_assoc]
        next => cases found
      next => exact (ih h).behind [c]

/-! ## A block is found -/

theorem isSome_beforeFence (before after : List Char) :
    (beforeFence (before ++ (fence ++ after))).isSome = true := by
  induction before with
  | nil => rfl
  | cons c before ih =>
      rw [List.cons_append, beforeFence]
      split
      next => rfl
      next => rw [Option.isSome_map, ih]

theorem isSome_content? {content : List Char} (some : content ≠ []) (after : List Char) :
    (content? (content ++ (fence ++ after))).isSome = true := by
  cases content with
  | nil => exact absurd rfl some
  | cons c content =>
      rw [List.cons_append, content?, Option.isSome_map]
      exact isSome_beforeFence content after

theorem isSome_contentAfterBlanks? {content : List Char} (some : content ≠ [])
    (after : List Char) : (contentAfterBlanks? (content ++ (fence ++ after))).isSome = true := by
  obtain ⟨blanks, rest, rfl, allBlank, noBlank⟩ := exists_blanks content
  have noBlank' : ∀ c ∈ (rest ++ (fence ++ after)).head?, Text.isBlank c = false := by
    cases rest with
    | nil =>
        rintro _ ⟨⟩
        decide
    | cons c rest => exact noBlank
  rw [List.append_assoc, contentAfterBlanks?_append allBlank noBlank', Option.isSome_or,
    Bool.or_eq_true]
  by_cases none : rest = []
  · -- Nothing but blanks stands between the fences: the last of them is content.
    subst none
    obtain ⟨blank, last⟩ : ∃ blank, blanks.getLast? = .some blank := by
      rw [List.append_nil] at some
      exact ⟨_, List.getLast?_eq_some_getLast some⟩
    right
    rw [last]
    exact isSome_content? (List.cons_ne_nil blank []) after
  · exact .inl (isSome_content? none after)

theorem isSome_blockContent? {content : List Char} (some : content ≠ []) (after : List Char) :
    (blockContent? (content ++ (fence ++ after))).isSome = true := by
  -- behind the label there may be no content left; then the label is content itself
  unfold blockContent?
  dsimp only
  split
  next => rfl
  next => exact isSome_contentAfterBlanks? some after

theorem fenced?_of_block {cs content : List Char} (block : blockContent? cs = some content) :
    fenced? (fence ++ cs) = some content := by
  have opens : fence.isPrefixOf (fence ++ cs) = true :=
    List.isPrefixOf_iff_prefix.2 (List.prefix_append _ _)
  rw [fence, List.cons_append, fenced?, ← List.cons_append, ← fence, if_pos opens, List.drop_left,
    block]

theorem isSome_fenced? {cs : List Char} (h : HasBlock cs) : (fenced? cs).isSome = true := by
  obtain ⟨before, content, after, some, rfl⟩ := h
  induction before with
  | nil =>
      obtain ⟨inner, block⟩ := Option.isSome_iff_exists.1 (isSome_blockContent? some after)
      rw [List.nil_append, fenced?_of_block block]
      rfl
  | cons c before ih =>
      rw [List.cons_append, fenced?]
      split
      next => rfl
      next => exact ih

theorem fenced?_eq_none_iff {cs : List Char} : fenced? cs = none ↔ ¬ HasBlock cs := by
  constructor
  · intro none block
    have found := isSome_fenced? block
    rw [none] at found
    cases found
  · intro noBlock
    cases found : fenced? cs with
    | none => rfl
    | some content => exact absurd (hasBlock_of_fenced? found) noBlock

end Extract

end CallPlan
