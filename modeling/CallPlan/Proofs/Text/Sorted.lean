import CallPlan.Text.Sorted

/-!
# CallPlan.Proofs.Text.Sorted

The order of names, and what sorting makes of a list.

`Text.precedes` is a total order on texts, so a sorted list without repetitions is a normal form of
a set: two of them with the same members are equal (`sortedSet_eq_iff`). Its names are strictly
increasing (`increasing_sorted`).
-/

namespace CallPlan

namespace Text

/-! ### Sequences of numbers -/

theorem isUpTo_total (ms ns : List Nat) : isUpTo ms ns = true ∨ isUpTo ns ms = true := by
  induction ms generalizing ns with
  | nil => exact Or.inl rfl
  | cons m ms ih =>
      cases ns with
      | nil => exact Or.inr rfl
      | cons n ns =>
          simp only [isUpTo, Bool.or_eq_true, Bool.and_eq_true, decide_eq_true_eq]
          rcases Nat.lt_trichotomy m n with h | h | h
          · exact Or.inl (Or.inl h)
          · rcases ih ns with h' | h'
            · exact Or.inl (Or.inr ⟨h, h'⟩)
            · exact Or.inr (Or.inr ⟨h.symm, h'⟩)
          · exact Or.inr (Or.inl h)

theorem isUpTo_trans {ks ms ns : List Nat} (h : isUpTo ks ms = true) (h' : isUpTo ms ns = true) :
    isUpTo ks ns = true := by
  induction ks generalizing ms ns with
  | nil => rfl
  | cons k ks ih =>
      cases ms with
      | nil => simp [isUpTo] at h
      | cons m ms =>
          cases ns with
          | nil => simp [isUpTo] at h'
          | cons n ns =>
              simp only [isUpTo, Bool.or_eq_true, Bool.and_eq_true, decide_eq_true_eq] at h h' ⊢
              rcases h with h | ⟨rfl, h⟩
              · rcases h' with h' | ⟨rfl, -⟩
                · exact Or.inl (Nat.lt_trans h h')
                · exact Or.inl h
              · rcases h' with h' | ⟨rfl, h'⟩
                · exact Or.inl h'
                · exact Or.inr ⟨rfl, ih h h'⟩

theorem isUpTo_antisymm {ms ns : List Nat} (h : isUpTo ms ns = true) (h' : isUpTo ns ms = true) :
    ms = ns := by
  induction ms generalizing ns with
  | nil =>
      cases ns with
      | nil => rfl
      | cons n ns => simp [isUpTo] at h'
  | cons m ms ih =>
      cases ns with
      | nil => simp [isUpTo] at h
      | cons n ns =>
          simp only [isUpTo, Bool.or_eq_true, Bool.and_eq_true, decide_eq_true_eq] at h h'
          obtain rfl : m = n := by omega
          have hs : isUpTo ms ns = true := by simpa using h
          have hs' : isUpTo ns ms = true := by simpa using h'
          rw [ih hs hs']

/-! ### Texts -/

theorem precedes_total (a b : String) : precedes a b = true ∨ precedes b a = true := by
  unfold precedes
  by_cases h : points a.toList = points b.toList
  · simp only [h, if_true]
    exact isUpTo_total _ _
  · simp only [h, Ne.symm h, if_false]
    exact isUpTo_total _ _

theorem precedes_trans {a b c : String} (h : precedes a b = true) (h' : precedes b c = true) :
    precedes a c = true := by
  unfold precedes at *
  by_cases hab : points a.toList = points b.toList <;>
    by_cases hbc : points b.toList = points c.toList
  · simp only [hab, hbc, if_true] at h h' ⊢
    exact isUpTo_trans h h'
  · simp only [hab, hbc, if_false] at h' ⊢
    exact h'
  · rw [if_neg hab] at h
    rw [if_neg (fun e => hab (e.trans hbc.symm)), ← hbc]
    exact h
  · rw [if_neg hab] at h
    rw [if_neg hbc] at h'
    -- texts that stand level would put the one between them level with both
    have hac : points a.toList ≠ points c.toList := fun e =>
      hab (isUpTo_antisymm h (e ▸ h'))
    rw [if_neg hac]
    exact isUpTo_trans h h'

theorem precedes_antisymm {a b : String} (h : precedes a b = true) (h' : precedes b a = true) :
    a = b := by
  unfold precedes at *
  by_cases e : points a.toList = points b.toList
  · simp only [e, if_true] at h h'
    have chars : a.toList = b.toList :=
      (List.map_inj_right fun _ _ => Char.toNat_inj.1).1 (isUpTo_antisymm h h')
    exact String.toList_inj.1 chars
  · rw [if_neg e] at h
    rw [if_neg (Ne.symm e)] at h'
    exact absurd (isUpTo_antisymm h h') e

/-! ### Sorted lists -/

theorem pairwise_sorted (names : List String) : (sorted names).Pairwise (precedes · ·) := by
  apply List.pairwise_mergeSort
  · intro a b c h h'
    exact precedes_trans h h'
  · intro a b
    exact Bool.or_eq_true_iff.2 (precedes_total a b)

@[simp] theorem mem_sorted {names : List String} {name : String} :
    name ∈ sorted names ↔ name ∈ names := List.mem_mergeSort

@[simp] theorem mem_sortedSet {names : List String} {name : String} :
    name ∈ sortedSet names ↔ name ∈ names := by
  simp [sortedSet]

theorem nodup_eraseDups (names : List String) : names.eraseDups.Nodup := by
  induction h : names.length using Nat.strongRecOn generalizing names with
  | ind n ih =>
      cases names with
      | nil => simp
      | cons name rest =>
          have shorter : (rest.filter fun b => !b == name).length < n := by
            have := List.length_filter_le (fun b => !b == name) rest
            simp only [List.length_cons] at h
            omega
          rw [List.eraseDups_cons, List.nodup_cons]
          exact ⟨by simp, ih _ shorter _ rfl⟩

theorem nodup_sortedSet (names : List String) : (sortedSet names).Nodup :=
  ((List.mergeSort_perm _ _).nodup_iff).2 (nodup_eraseDups names)

/-- Sorted lists without repetitions are equal if they have the same members. -/
theorem eq_of_sorted {names names' : List String}
    (h : names.Pairwise (precedes · ·)) (h' : names'.Pairwise (precedes · ·))
    (nodup : names.Nodup) (nodup' : names'.Nodup) (same : ∀ name, name ∈ names ↔ name ∈ names') :
    names = names' :=
  List.Perm.eq_of_pairwise (fun _ _ _ _ => precedes_antisymm) h h'
    ((List.perm_ext_iff_of_nodup nodup nodup').2 same)

/-- Every name comes before those that follow it, and differs from them. -/
def Increasing (names : List String) : Prop :=
  names.Pairwise fun name name' => precedes name name' = true ∧ name ≠ name'

/-- Names without repetitions are strictly increasing when they are sorted. -/
theorem increasing_sorted {names : List String} (nodup : names.Nodup) : Increasing (sorted names) :=
  (pairwise_sorted names).and (((List.mergeSort_perm _ _).nodup_iff).2 nodup)

/-- Sorting forgets the order. -/
theorem sorted_eq_of_perm {names names' : List String} (h : names.Perm names') :
    sorted names = sorted names' := by
  have perm : (sorted names).Perm (sorted names') :=
    (List.mergeSort_perm _ _).trans (h.trans (List.mergeSort_perm _ _).symm)
  exact perm.eq_of_pairwise (fun _ _ _ _ => precedes_antisymm) (pairwise_sorted _)
    (pairwise_sorted _)

/-- The sorted list of a set is a normal form of it. -/
theorem sortedSet_eq_iff {names names' : List String} :
    sortedSet names = sortedSet names' ↔ ∀ name, name ∈ names ↔ name ∈ names' := by
  constructor
  · intro h name
    rw [← mem_sortedSet, h, mem_sortedSet]
  · intro same
    refine eq_of_sorted (pairwise_sorted _) (pairwise_sorted _) (nodup_sortedSet _)
      (nodup_sortedSet _) fun name => ?_
    rw [mem_sortedSet, mem_sortedSet]
    exact same name

end Text

end CallPlan
