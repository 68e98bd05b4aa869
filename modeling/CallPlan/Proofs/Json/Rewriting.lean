import CallPlan.Proofs.Json.Leaves

/-!
# CallPlan.Proofs.Json.Rewriting

The leaves of a value, once each, and what rewriting them gives.

* Where keys are distinct no two leaves stand at the same place (`Distinct.nodup_leaves`), since of
  two places one `Before` the other they differ (`Before.ne`).
* `Json.mapTexts` replaces every text leaf by a text. The leaves of the result are those of the
  value, rewritten (`leaves_mapTexts`), and whatever its leaves become next could have been made of
  the first ones (`mapLeaves_mapTexts`).
-/

namespace CallPlan

namespace Json

/-! ### Once each -/

theorem Before.ne {value : Json} {p q : Location} (before : value.Before p q)
    (distinct : value.Distinct) : p ≠ q := by
  induction before with
  | keys order =>
      cases distinct with
      | obj keys each =>
          -- The two keys stand one after the other among keys that are all different.
          have pair := keys.sublist (order.map Prod.fst)
          rintro ⟨⟩
          simp at pair
  | indices order =>
      rintro same
      have equal := (List.cons.inj same).1
      simp only [Location.Part.index.injEq] at equal
      omega
  | underKey member inside ih =>
      cases distinct with
      | obj keys each => exact fun same => ih (each _ member) (List.cons.inj same).2
  | underIndex item inside ih =>
      cases distinct with
      | arr each =>
          exact fun same => ih (each _ (List.mem_of_getElem? item)) (List.cons.inj same).2

/-- No two leaves stand at the same place. -/
theorem Distinct.nodup_leaves {value : Json} (distinct : value.Distinct) :
    (value.leaves.map Prod.fst).Nodup :=
  List.pairwise_map.2 ((pairwise_leaves value).imp fun before => before.ne distinct)

/-- What is listed are the texts inside a value. -/
theorem Distinct.mem_leaves_iff {value : Json} (distinct : value.Distinct) {place : Location}
    {text : String} : (place, text) ∈ value.leaves ↔ value.at? place = some (.str text) :=
  ⟨distinct.at?_of_mem_leaves, mem_leaves_of_at?⟩

/-! ### Rewriting -/

/-- Rebuilds a value with every text leaf replaced by a text. -/
def mapTexts (f : Location → String → String) (value : Json) : Json :=
  value.mapLeaves fun place text => .str (f place text)

/-- A leaf with its text replaced. -/
def rewrite (f : Location → String → String) (leaf : Location × String) : Location × String :=
  (leaf.1, f leaf.1 leaf.2)

/-- A leaf further in is rewritten by what the function does there. -/
theorem map_rewrite_under (f : Location → String → String) (step : Location.Part)
    (leaves : List (Location × String)) :
    (leaves.map (under step)).map (rewrite f)
      = (leaves.map (rewrite fun place text => f (step :: place) text)).map (under step) := by
  simp only [List.map_map]
  rfl

section
variable (f : Location → String → String)

/-- Rewrites the items of a list from an index on. -/
def mapItemTexts (index : Nat) (items : List Json) : List Json :=
  Id.run (mapItemLeavesM (fun place text => pure (.str (f place text))) index items)

/-- Rewrites the members of an object. -/
def mapMemberTexts (members : List (String × Json)) : List (String × Json) :=
  Id.run (mapMemberLeavesM (fun place text => pure (.str (f place text))) members)

theorem mapItemTexts_cons (index : Nat) (item : Json) (rest : List Json) :
    mapItemTexts f index (item :: rest)
      = item.mapTexts (fun place text => f (.index index :: place) text)
        :: mapItemTexts f (index + 1) rest := rfl

theorem mapMemberTexts_cons (key : String) (value : Json) (rest : List (String × Json)) :
    mapMemberTexts f ((key, value) :: rest)
      = (key, value.mapTexts fun place text => f (.key key :: place) text)
        :: mapMemberTexts f rest := rfl

end

mutual

/-- The leaves of a rewritten value are the leaves of the value, rewritten. -/
theorem leaves_mapTexts (f : Location → String → String) (value : Json) :
    (value.mapTexts f).leaves = value.leaves.map (rewrite f) := by
  cases value with
  | null => rfl
  | bool b => rfl
  | num n => rfl
  | str s => rfl
  | arr items => exact itemLeaves_mapItemTexts f 0 items
  | obj members => exact memberLeaves_mapMemberTexts f members

theorem itemLeaves_mapItemTexts (f : Location → String → String) (index : Nat)
    (items : List Json) :
    itemLeaves index (mapItemTexts f index items) = (itemLeaves index items).map (rewrite f) := by
  cases items with
  | nil => rfl
  | cons item rest =>
      rw [mapItemTexts_cons, itemLeaves, itemLeaves, List.map_append, map_rewrite_under,
        leaves_mapTexts, itemLeaves_mapItemTexts f (index + 1) rest]

theorem memberLeaves_mapMemberTexts (f : Location → String → String)
    (members : List (String × Json)) :
    memberLeaves (mapMemberTexts f members) = (memberLeaves members).map (rewrite f) := by
  match members with
  | [] => rfl
  | (key, value) :: rest =>
      rw [mapMemberTexts_cons, memberLeaves, memberLeaves, List.map_append, map_rewrite_under,
        leaves_mapTexts, memberLeaves_mapMemberTexts f rest]

end

mutual

/-- What is made of rewritten leaves can be made of the first ones. -/
theorem mapLeaves_mapTexts (f : Location → String → String) (g : Location → String → Json)
    (value : Json) :
    (value.mapTexts f).mapLeaves g = value.mapLeaves fun place text => g place (f place text) := by
  cases value with
  | null => rfl
  | bool b => rfl
  | num n => rfl
  | str s => rfl
  | arr items => exact congrArg arr (mapItemLeaves_mapItemTexts f g 0 items)
  | obj members => exact congrArg obj (mapMemberLeaves_mapMemberTexts f g members)

theorem mapItemLeaves_mapItemTexts (f : Location → String → String)
    (g : Location → String → Json) (index : Nat) (items : List Json) :
    Id.run (mapItemLeavesM (fun place text => pure (g place text)) index
        (mapItemTexts f index items))
      = Id.run (mapItemLeavesM (fun place text => pure (g place (f place text))) index items) := by
  cases items with
  | nil => rfl
  | cons item rest =>
      have head := mapLeaves_mapTexts (fun place text => f (.index index :: place) text)
        (fun place text => g (.index index :: place) text) item
      have tail := mapItemLeaves_mapItemTexts f g (index + 1) rest
      exact List.cons_eq_cons.2 ⟨head, tail⟩

theorem mapMemberLeaves_mapMemberTexts (f : Location → String → String)
    (g : Location → String → Json) (members : List (String × Json)) :
    Id.run (mapMemberLeavesM (fun place text => pure (g place text)) (mapMemberTexts f members))
      = Id.run (mapMemberLeavesM (fun place text => pure (g place (f place text))) members) := by
  match members with
  | [] => rfl
  | (key, value) :: rest =>
      have head := mapLeaves_mapTexts (fun place text => f (.key key :: place) text)
        (fun place text => g (.key key :: place) text) value
      have tail := mapMemberLeaves_mapMemberTexts f g rest
      exact List.cons_eq_cons.2 ⟨congrArg (Prod.mk key) head, tail⟩

end

/-- **The leaves of a value are listed once each, and rewriting commutes with listing**: the places
of the leaves differ, and following them leads to their texts, and to every text there is; the
leaves of a rewritten value are those of the value rewritten, in the same order; and two rewritings
one after the other are one. -/
theorem leaves_rewritten (value : Json) :
    (value.Distinct → (value.leaves.map Prod.fst).Nodup ∧
        ∀ place text, (place, text) ∈ value.leaves ↔ value.at? place = some (.str text)) ∧
      (∀ f : Location → String → String,
        (value.mapTexts f).leaves = value.leaves.map fun (place, text) => (place, f place text)) ∧
      ∀ f g : Location → String → String,
        (value.mapTexts f).mapTexts g
          = value.mapTexts fun place text => g place (f place text) := by
  refine ⟨fun distinct => ⟨distinct.nodup_leaves, fun place text => distinct.mem_leaves_iff⟩,
    fun f => leaves_mapTexts f value, fun f g => ?_⟩
  exact mapLeaves_mapTexts f (fun place text => .str (g place text)) value

namespace Sample

/-- A value with texts in a list inside an object. -/
def order : Json :=
  .obj [("to", .str "Ada"), ("lines", .arr [.str "tea", .int 2, .arr [.str "cup"]])]

theorem distinct_order : order.Distinct := by
  refine .obj (by decide) (List.forall_mem_cons.2 ⟨.str _, List.forall_mem_singleton.2 (.arr ?_)⟩)
  intro item member
  simp only [List.mem_cons, List.not_mem_nil, or_false] at member
  rcases member with rfl | rfl | rfl
  · exact .str _
  · exact .num _
  · exact .arr (List.forall_mem_singleton.2 (.str _))

end Sample

theorem leaves_rewritten_order :
    Sample.order.Distinct ∧ (Sample.order.leaves.map Prod.fst).Nodup ∧
      (([.key "lines", .index 2, .index 0], "cup") ∈ Sample.order.leaves ↔
        Sample.order.at? [.key "lines", .index 2, .index 0] = some (.str "cup")) := by
  obtain ⟨nodup, reached⟩ := (leaves_rewritten Sample.order).1 Sample.distinct_order
  exact ⟨Sample.distinct_order, nodup, reached _ _⟩

end Json

end CallPlan
