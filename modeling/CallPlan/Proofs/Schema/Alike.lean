import CallPlan.Proofs.Json.Leaves
import CallPlan.Proofs.Schema.Shape

/-!
# CallPlan.Proofs.Schema.Alike

Schemas that differ only in how they are written down.

* `Schema.Alike` compares two schemas by what is said of types, properties and items: objects key by
  key, so that the order of their entries does not count, and types by the entries that are listed,
  so that neither order nor repetition counts nor whether a single one is written as a list. What
  else schemas say may even differ.
* Every schema is alike to itself (`Alike.refl`) and to what its entries are in another order
  (`Alike.of_perm`).
* Whatever is looked up in alike schemas is alike: sets of types are equal (`Alike.ofDeclared?_eq`,
  `Alike.typeAt_eq`), and a search finds alike fields or misses the same key among the same others
  (`Alike.walk`, `Alike.field`).
-/

namespace CallPlan

namespace Schema

/-! ### Declarations of types -/

/-- The entries of a declaration of types, of which a single word is one. -/
def typeEntries : Option Json → List Json
  | some (.str word) => [.str word]
  | some (.arr entries) => entries
  | _ => []

theorem ofDeclared?_eq (declared : Option Json) :
    TypeSet.ofDeclared? declared =
      if typeEntries declared = [] then .ok none
      else if (typeEntries declared).all Json.isShort then
        .ok (some (Text.sortedSet ((typeEntries declared).map Json.display)))
      else .error {} := by
  unfold TypeSet.ofDeclared? typeEntries
  split
  · next word =>
      simp [Text.sortedSet, Text.sorted, Json.display, List.eraseDups_cons, Json.isShort,
        Json.numbers]
  · next first rest => simp
  · next noWord noEntries =>
      split
      · next word => exact absurd rfl (noWord word)
      · next entries =>
          cases entries with
          | nil => rfl
          | cons first rest => exact absurd rfl (noEntries first rest)
      · rfl

/-- A set of types depends on what the entries are, not on how they are listed. -/
theorem ofDeclared?_congr {declared declared' : Option Json}
    (same : ∀ entry, entry ∈ typeEntries declared ↔ entry ∈ typeEntries declared') :
    TypeSet.ofDeclared? declared = TypeSet.ofDeclared? declared' := by
  have empty : typeEntries declared = [] ↔ typeEntries declared' = [] := by
    rw [List.eq_nil_iff_forall_not_mem, List.eq_nil_iff_forall_not_mem]
    exact forall_congr' fun entry => not_congr (same entry)
  have words : Text.sortedSet ((typeEntries declared).map Json.display)
      = Text.sortedSet ((typeEntries declared').map Json.display) := by
    rw [Text.sortedSet_eq_iff]
    intro word
    simp only [List.mem_map, same]
  have short : (typeEntries declared).all Json.isShort
      = (typeEntries declared').all Json.isShort := by
    rw [Bool.eq_iff_iff, List.all_eq_true, List.all_eq_true]
    exact forall_congr' fun entry => imp_congr_left (same entry)
  simp only [ofDeclared?_eq, empty, words, short]

/-! ### Alike schemas -/

/-- Two schemas say the same of types, properties and items, at every depth. -/
inductive Alike : Json → Json → Prop where
  | intro {schema other : Json}
      (object : (∃ members, schema = .obj members) ↔ ∃ members, other = .obj members)
      (null : schema = .null ↔ other = .null)
      (types : ∀ entry, entry ∈ typeEntries (schema.get? "type")
        ↔ entry ∈ typeEntries (other.get? "type"))
      (names : (properties schema).keys.Perm (properties other).keys)
      (inside : ∀ key, Option.Rel Alike (Members.get? (properties schema) key)
        (Members.get? (properties other) key))
      (items : Option.Rel Alike (schema.get? "items") (other.get? "items")) :
      Alike schema other

theorem sizeOf_lt_of_get? {schema inner : Json} {key : String}
    (held : schema.get? key = some inner) : sizeOf inner < sizeOf schema := by
  unfold Json.get? at held
  split at held
  · next members key =>
      have less := List.sizeOf_lt_of_mem (mem_of_get? held)
      simp only [Prod.mk.sizeOf_spec, Json.obj.sizeOf_spec] at less ⊢
      omega
  · cases held

theorem sizeOf_lt_of_property {schema inner : Json} {key : String}
    (held : Members.get? (properties schema) key = some inner) :
    sizeOf inner < sizeOf schema := by
  unfold properties at held
  split at held
  · next members declared =>
      have inside : (Json.obj members).get? key = some inner := held
      exact Nat.lt_trans (sizeOf_lt_of_get? inside) (sizeOf_lt_of_get? declared)
  · cases held

/-- Every schema is alike to itself. -/
theorem Alike.refl (schema : Json) : Alike schema schema := by
  refine .intro Iff.rfl Iff.rfl (fun _ => Iff.rfl) (.refl _) (fun key => ?_) ?_
  · cases held : Members.get? (properties schema) key with
    | none => exact .none
    | some inner => exact .some (Alike.refl inner)
  · cases held : schema.get? "items" with
    | none => exact .none
    | some inner => exact .some (Alike.refl inner)
termination_by sizeOf schema
decreasing_by
  · exact sizeOf_lt_of_property held
  · exact sizeOf_lt_of_get? held

/-- A search that starts from alike schemas finds alike fields, or misses the same key among the same
others, or breaks off because of a type that cannot be written. -/
inductive AlikeSearch : FieldSearch → FieldSearch → Prop where
  | found {field other : Json} (alike : Alike field other) :
      AlikeSearch (.found field) (.found other)
  | missing {segment : String} {siblings others : List String} (names : siblings.Perm others) :
      AlikeSearch (.missing segment siblings) (.missing segment others)
  | longType {long : LongNumber} : AlikeSearch (.longType long) (.longType long)

namespace Alike

section
variable {members others : Members}

/-- Of objects, what they say of types, properties and items is all that counts. -/
theorem of_obj
    (types : ∀ entry, entry ∈ typeEntries (Members.get? members "type")
      ↔ entry ∈ typeEntries (Members.get? others "type"))
    (names : (properties (.obj members)).keys.Perm (properties (.obj others)).keys)
    (inside : ∀ key, Option.Rel Alike (Members.get? (properties (.obj members)) key)
      (Members.get? (properties (.obj others)) key))
    (items : Option.Rel Alike (Members.get? members "items") (Members.get? others "items")) :
    Alike (.obj members) (.obj others) := by
  have object : (∃ ms, Json.obj members = .obj ms) ↔ ∃ ms, Json.obj others = .obj ms :=
    iff_of_true ⟨members, rfl⟩ ⟨others, rfl⟩
  have null : Json.obj members = .null ↔ Json.obj others = .null :=
    iff_of_false Json.noConfusion Json.noConfusion
  exact .intro object null types names inside items

/-- The order of the entries of an object does not count. -/
theorem of_perm (order : members.Perm others) (distinct : members.keys.Nodup) :
    Alike (.obj members) (.obj others) := by
  have same : ∀ key, Members.get? members key = Members.get? others key := by
    have distinct' : others.keys.Nodup := (order.map Prod.fst).nodup_iff.1 distinct
    intro key
    refine Option.ext fun value => ⟨fun held => ?_, fun held => ?_⟩
    · exact Members.get?_of_mem distinct' (order.subset (mem_of_get? held))
    · exact Members.get?_of_mem distinct (order.symm.subset (mem_of_get? held))
  have props : properties (.obj members) = properties (.obj others) := by
    rw [properties, properties, Json.get?, Json.get?, same]
  cases Alike.refl (.obj others) with
  | intro object null types names inside items =>
      refine of_obj ?_ ?_ ?_ ?_
      · rw [same]
        exact types
      · rw [props]
      · rw [props]
        exact inside
      · rw [same]
        exact items

end

variable {schema other : Json}

theorem object_iff (h : Alike schema other) :
    (∃ members, schema = .obj members) ↔ ∃ members, other = .obj members := by
  cases h with
  | intro object => exact object

theorem null_iff (h : Alike schema other) : schema = .null ↔ other = .null := by
  cases h with
  | intro object null => exact null

theorem ofDeclared?_eq (h : Alike schema other) :
    TypeSet.ofDeclared? (schema.get? "type") = TypeSet.ofDeclared? (other.get? "type") := by
  cases h with
  | intro object null types => exact ofDeclared?_congr types

theorem property (h : Alike schema other) (key : String) :
    Option.Rel Alike (Members.get? (properties schema) key)
      (Members.get? (properties other) key) := by
  cases h with
  | intro object null types names inside => exact inside key

theorem isArray_eq (h : Alike schema other) : isArray schema = isArray other := by
  rw [isArray, isArray, h.ofDeclared?_eq]

theorem searched_keys (h : Alike schema other) :
    (searched schema).keys.Perm (searched other).keys := by
  rw [searched, searched, h.isArray_eq]
  split
  · cases h with
    | intro object null types names => exact names
  · exact .refl _

theorem searched (h : Alike schema other) (key : String) :
    Option.Rel Alike (Members.get? (searched schema) key) (Members.get? (searched other) key) := by
  rw [Schema.searched, Schema.searched, h.isArray_eq]
  split
  · exact h.property key
  · exact .none

/-- At a location of the arguments alike schemas declare the same types. -/
theorem typeAt_eq (h : Alike schema other) (place : Location) :
    typeAt schema place = typeAt other place := by
  induction place generalizing schema other with
  | nil => exact h.ofDeclared?_eq
  | cons step rest ih =>
      have next : Option.Rel Alike (inside? schema step) (inside? other step) := by
        cases step with
        | key name => exact h.property name
        | index position =>
            cases h with
            | intro object null types names inside items => exact items
      rw [typeAt, typeAt]
      rcases rel_cases next with ⟨inner, inner', e, e', alike⟩ | ⟨e, e'⟩
      · rw [e, e']
        exact ih alike
      · rw [e, e']

theorem walk (h : Alike schema other) (path : List String) :
    AlikeSearch (walk schema path) (walk other path) := by
  induction path generalizing schema other with
  | nil =>
      rw [Schema.walk, Schema.walk]
      by_cases null : schema = .null
      · rw [if_pos null, if_pos (h.null_iff.1 null)]
        exact .missing (.refl _)
      · rw [if_neg null, if_neg (mt h.null_iff.2 null)]
        exact .found h
  | cons key rest ih =>
      rw [Schema.walk, Schema.walk, h.isArray_eq]
      cases isArray other with
      | error long => exact .longType
      | ok single =>
          rcases rel_cases (h.searched key) with ⟨inner, inner', e, e', alike⟩ | ⟨e, e'⟩
          · rw [e, e']
            exact ih alike
          · rw [e, e']
            exact .missing h.searched_keys

/-- The search in both places, from the top level and from the artifact on, as well. -/
theorem field (h : Alike schema other) (path : List String) :
    AlikeSearch (field schema path) (field other path) := by
  have top := h.walk path
  unfold Schema.field
  generalize Schema.walk schema path = first at top ⊢
  generalize Schema.walk other path = second at top ⊢
  cases top with
  | found alike => exact .found alike
  | longType => exact .longType
  | missing names =>
      cases path with
      | nil => exact .missing names
      | cons key rest =>
          have known : Members.contains (properties schema) key
              = Members.contains (properties other) key := isSome_eq_of_rel (h.property key)
          dsimp only
          rcases rel_cases (h.property "artifact") with
            ⟨artifact, artifact', e, e', alike⟩ | ⟨e, e'⟩
          · rw [e, e']
            dsimp only
            rw [known]
            split
            · have nested := alike.walk (key :: rest)
              generalize Schema.walk artifact (key :: rest) = first at nested ⊢
              generalize Schema.walk artifact' (key :: rest) = second at nested ⊢
              cases nested with
              | found alike => exact .found alike
              | longType => exact .longType
              | missing names' =>
                  dsimp only
                  split
                  · exact .missing names
                  · exact .missing names'
            · exact .missing names
          · rw [e, e']
            exact .missing names

end Alike

end Schema

/-- Two tools are declared alike if the schemas of their arguments and of their output are alike. -/
structure ToolSchema.Alike (schema other : ToolSchema) : Prop where
  input : Schema.Alike (.obj schema.input) (.obj other.input)
  output : Schema.Alike (.obj schema.output) (.obj other.output)

end CallPlan
