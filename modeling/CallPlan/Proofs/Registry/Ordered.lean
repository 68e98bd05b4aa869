import CallPlan.Proofs.Registry.Lookup
import Mathlib.Data.Set.Card

/-!
# CallPlan.Proofs.Registry.Ordered

A registry is a map that keeps the order of its names.

* `OrderedMap` says what such a map is: the names that are present, in order, and what stands under
  each. A `RegistryEdit` is a change of it, and of a registry.
* The same change keeps a registry and a map alike (`Mirrors.edit`), and so does any number of
  changes (`Mirrors.edited`). What stands under a name is what the last change under it wrote
  (`value_edited_iff`).
* A store adds to these changes, or starts over with those that lead to another registry
  (`StoreAction.remember`). So what is shown for changes of the empty registry holds of every
  registry that comes from a store (`snapshot_refines`).
-/

namespace CallPlan

/-! ### Maps that keep an order -/

/-- Names in order, and what stands under them. -/
structure OrderedMap where
  order : List String
  value : String → Option ToolSchema

/-- A change under one name. -/
inductive RegistryEdit where
  | write (schema : ToolSchema)
  | remove (name : String)

/-- The name that a change is about. -/
def RegistryEdit.name : RegistryEdit → String
  | .write schema => schema.name
  | .remove name => name

namespace OrderedMap

def empty : OrderedMap := ⟨[], fun _ => none⟩

/-- Writing under a present name leaves it in its place; an absent one comes last. -/
def write (map : OrderedMap) (schema : ToolSchema) : OrderedMap where
  order := if (map.value schema.name).isSome then map.order else map.order ++ [schema.name]
  value name := if name = schema.name then some schema else map.value name

def remove (map : OrderedMap) (removed : String) : OrderedMap where
  order := map.order.filter (· ≠ removed)
  value name := if name = removed then none else map.value name

def edit (map : OrderedMap) : RegistryEdit → OrderedMap
  | .write schema => map.write schema
  | .remove name => map.remove name

def edited (map : OrderedMap) (edits : List RegistryEdit) : OrderedMap := edits.foldl edit map

def ofList (schemas : List ToolSchema) : OrderedMap := schemas.foldl write empty

/-- The names in order, each with what stands under it. -/
def entries (map : OrderedMap) : List (String × ToolSchema) :=
  map.order.filterMap fun name => (map.value name).map (name, ·)

theorem edited_append (map : OrderedMap) (edits others : List RegistryEdit) :
    map.edited (edits ++ others) = (map.edited edits).edited others :=
  List.foldl_append

theorem edited_writes (map : OrderedMap) (schemas : List ToolSchema) :
    map.edited (schemas.map .write) = schemas.foldl write map :=
  List.foldl_map

end OrderedMap

namespace Registry

def edit (registry : Registry) : RegistryEdit → Registry
  | .write schema => registry.withSchema schema
  | .remove name => registry.without name

def edited (registry : Registry) (edits : List RegistryEdit) : Registry := edits.foldl edit registry

theorem edited_append (registry : Registry) (edits others : List RegistryEdit) :
    registry.edited (edits ++ others) = (registry.edited edits).edited others :=
  List.foldl_append

theorem edited_writes (registry : Registry) (schemas : List ToolSchema) :
    registry.edited (schemas.map .write) = schemas.foldl write registry := by
  rw [edited, List.foldl_map]
  exact congrArg (schemas.foldl · registry) (funext₂ withSchema_eq_write)

end Registry

/-! ### One change, and any number of them -/

/-- A registry has the names of a map in the order of the map, and finds under each what stands
there. -/
structure Mirrors (registry : Registry) (map : OrderedMap) : Prop where
  order : registry.order = map.order
  lookup : ∀ name, registry.lookup name = map.value name

section
variable {registry : Registry} {map : OrderedMap}

theorem Mirrors.edit (h : Mirrors registry map) (edit : RegistryEdit) :
    Mirrors (registry.edit edit) (map.edit edit) := by
  cases edit with
  | write schema =>
      have present : (map.value schema.name).isSome = true ↔ schema.name ∈ registry.order := by
        rw [← h.lookup, Registry.isSome_lookup_iff]
      refine ⟨?_, fun name => ?_⟩
      · simp only [Registry.edit, OrderedMap.edit, OrderedMap.write, Registry.order_withSchema,
          present, h.order]
      · simp only [Registry.edit, OrderedMap.edit, OrderedMap.write, Registry.lookup_withSchema,
          h.lookup]
  | remove removed =>
      refine ⟨?_, fun name => ?_⟩
      · simp only [Registry.edit, OrderedMap.edit, OrderedMap.remove, Registry.order_without,
          h.order]
      · simp only [Registry.edit, OrderedMap.edit, OrderedMap.remove, Registry.lookup_without,
          h.lookup]

theorem Mirrors.edited (h : Mirrors registry map) (edits : List RegistryEdit) :
    Mirrors (registry.edited edits) (map.edited edits) := by
  induction edits generalizing registry map with
  | nil => exact h
  | cons edit rest ih => exact ih (h.edit edit)

end

/-- The names of a registry are distinct, and each is that of the declaration under it. -/
structure Registry.Keyed (registry : Registry) : Prop where
  distinct : registry.order.Nodup
  ownName : ∀ entry ∈ registry.entries, entry.1 = entry.2.name

namespace Registry

section
variable {registry : Registry}

theorem keyed (registry : Registry) : registry.Keyed := ⟨registry.distinct, registry.ownName⟩

/-- The entries of a registry are those of every map that it mirrors. -/
theorem entries_eq {map : OrderedMap} (mirrors : Mirrors registry map) :
    registry.entries = map.entries := by
  have found : ∀ name, map.value name = List.lookup name registry.entries :=
    fun name => (mirrors.lookup name).symm
  simp only [OrderedMap.entries, ← mirrors.order, found]
  exact (filterMap_lookup registry.distinct).symm

/-- A registry is built anew from its declarations. -/
theorem ofList_schemas (registry : Registry) : ofList registry.schemas = registry := by
  rw [Registry.mk.injEq]
  exact entries_ofList registry.distinct registry.ownName

end

end Registry

/-! ### What was written last -/

/-- The last change under a name wrote this declaration there. -/
def LastWrite (edits : List RegistryEdit) (name : String) (schema : ToolSchema) : Prop :=
  ∃ before after, edits = before ++ .write schema :: after ∧ schema.name = name ∧
    ∀ edit ∈ after, edit.name ≠ name

section
variable {edits : List RegistryEdit} {edit : RegistryEdit} {name : String} {schema : ToolSchema}

theorem lastWrite_concat_iff :
    LastWrite (edits ++ [edit]) name schema ↔
      if edit.name = name then edit = .write schema else LastWrite edits name schema := by
  constructor
  · rintro ⟨before, after, e, rfl, others⟩
    cases after using List.reverseRecOn with
    | nil =>
        obtain ⟨-, rfl⟩ := List.append_singleton_inj.1 e
        exact (if_pos rfl).mpr rfl
    | append_singleton after last =>
        rw [← List.cons_append, ← List.append_assoc] at e
        obtain ⟨rfl, rfl⟩ := List.append_singleton_inj.1 e
        rw [if_neg (others edit (by simp))]
        exact ⟨before, after, rfl, rfl, fun other h => others other (by simp [h])⟩
  · intro h
    split at h
    next same =>
      subst h
      exact ⟨edits, [], rfl, same, nofun⟩
    next different =>
      obtain ⟨before, after, rfl, rfl, others⟩ := h
      refine ⟨before, after ++ [edit], by simp, rfl, fun other h => ?_⟩
      rcases List.mem_append.1 h with h | h
      · exact others other h
      · exact List.mem_singleton.1 h ▸ different

theorem value_edited_iff :
    (OrderedMap.empty.edited edits).value name = some schema ↔ LastWrite edits name schema := by
  -- From the end of the changes: the last one decides about its own name, and about no other.
  induction edits using List.reverseRecOn with
  | nil =>
      refine ⟨nofun, ?_⟩
      rintro ⟨before, after, e, -⟩
      simp at e
  | append_singleton edits edit ih =>
      rw [lastWrite_concat_iff, OrderedMap.edited_append, ← ih]
      cases edit with
      | write written =>
          by_cases same : name = written.name
          · simp [OrderedMap.edited, OrderedMap.edit, OrderedMap.write, RegistryEdit.name, same]
          · simp [OrderedMap.edited, OrderedMap.edit, OrderedMap.write, RegistryEdit.name, same,
              Ne.symm same]
      | remove removed =>
          by_cases same : name = removed
          · simp [OrderedMap.edited, OrderedMap.edit, OrderedMap.remove, RegistryEdit.name, same]
          · simp [OrderedMap.edited, OrderedMap.edit, OrderedMap.remove, RegistryEdit.name, same,
              Ne.symm same]

end

/-! ### Stores -/

/-- What may be asked of a store. The registry that takes the place of the current one is made of
some declarations, and changed. -/
inductive StoreAction where
  | register (schema : ToolSchema)
  | unregister (name : String)
  | replace (schemas : List ToolSchema) (edits : List RegistryEdit)

namespace RegistryStore

/-- Does what it is asked for. -/
def act (store : RegistryStore) : StoreAction → RegistryStore
  | .register schema => store.register schema
  | .unregister name => store.unregister name
  | .replace schemas edits => store.replace ((Registry.ofList schemas).edited edits)

/-- The store that starts with some declarations, after some actions. -/
def after (initial : List ToolSchema) (actions : List StoreAction) : RegistryStore :=
  actions.foldl act (ofRegistry (.ofList initial))

end RegistryStore

namespace OrderedMap

/-- What an action on a store does to a map. -/
def act (map : OrderedMap) : StoreAction → OrderedMap
  | .register schema => map.write schema
  | .unregister name => map.remove name
  | .replace schemas edits => (ofList schemas).edited edits

/-- The map of some declarations, after some actions. -/
def after (initial : List ToolSchema) (actions : List StoreAction) : OrderedMap :=
  actions.foldl act (ofList initial)

end OrderedMap

namespace StoreAction

/-- The changes that lead from nothing to what a store holds after an action, given those that lead
to what it held before. -/
def remember (edits : List RegistryEdit) : StoreAction → List RegistryEdit
  | .register schema => edits ++ [.write schema]
  | .unregister name => edits ++ [.remove name]
  | .replace schemas others => schemas.map .write ++ others

/-- The changes that lead from nothing to what a store holds after some actions. -/
def history (initial : List ToolSchema) (actions : List StoreAction) : List RegistryEdit :=
  actions.foldl remember (initial.map .write)

end StoreAction

theorem RegistryStore.current_act {store : RegistryStore} {edits : List RegistryEdit}
    (h : store.current = Registry.empty.edited edits) (action : StoreAction) :
    (store.act action).current = Registry.empty.edited (action.remember edits) := by
  cases action with
  | register schema =>
      rw [StoreAction.remember, Registry.edited_append, ← h]
      rfl
  | unregister name =>
      rw [StoreAction.remember, Registry.edited_append, ← h]
      rfl
  | replace schemas others =>
      rw [StoreAction.remember, Registry.edited_append, Registry.edited_writes]
      rfl

theorem OrderedMap.act_edited (edits : List RegistryEdit) (action : StoreAction) :
    (empty.edited edits).act action = empty.edited (action.remember edits) := by
  cases action with
  | register schema =>
      rw [StoreAction.remember, edited_append]
      rfl
  | unregister name =>
      rw [StoreAction.remember, edited_append]
      rfl
  | replace schemas others =>
      rw [StoreAction.remember, edited_append, edited_writes]
      rfl

theorem RegistryStore.current_after (initial : List ToolSchema) (actions : List StoreAction) :
    (after initial actions).current
      = Registry.empty.edited (StoreAction.history initial actions) := by
  induction actions using List.reverseRecOn with
  | nil => exact (Registry.edited_writes .empty initial).symm
  | append_singleton actions action ih =>
      rw [after, StoreAction.history, List.foldl_concat, List.foldl_concat]
      exact current_act ih action

theorem OrderedMap.after_eq (initial : List ToolSchema) (actions : List StoreAction) :
    after initial actions = empty.edited (StoreAction.history initial actions) := by
  induction actions using List.reverseRecOn with
  | nil => exact (edited_writes .empty initial).symm
  | append_singleton actions action ih =>
      rw [after, StoreAction.history, List.foldl_concat, List.foldl_concat, ← after, ih,
        act_edited, StoreAction.history]

/-! ### What can be relied on -/

/-- A registry is the map that the same changes have led to. -/
structure Refines (registry : Registry) (map : OrderedMap) (edits : List RegistryEdit) : Prop where
  entries : registry.entries = map.entries
  /-- Every name stands once, and is that of the declaration under it. -/
  keyed : registry.Keyed
  /-- What is found under a name was the last to be written there, and not taken away. -/
  lookup : ∀ name schema, registry.lookup name = some schema ↔ LastWrite edits name schema
  size : registry.size = {name | ∃ schema, LastWrite edits name schema}.ncard
  /-- The sorted names are the present ones, in strictly increasing order. -/
  mem_names : ∀ name, name ∈ registry.names ↔ ∃ schema, LastWrite edits name schema
  increasing : Text.Increasing registry.names
  /-- Building the registry anew from its declarations changes nothing. -/
  rebuilt : Registry.ofList registry.schemas = registry

theorem refines_edited (edits : List RegistryEdit) :
    Refines (Registry.empty.edited edits) (OrderedMap.empty.edited edits) edits := by
  have mirrors : Mirrors (Registry.empty.edited edits) (OrderedMap.empty.edited edits) :=
    Mirrors.edited ⟨rfl, fun _ => rfl⟩ edits
  have lookup : ∀ name schema,
      (Registry.empty.edited edits).lookup name = some schema ↔ LastWrite edits name schema := by
    intro name schema
    rw [mirrors.lookup, value_edited_iff]
  have present : ∀ name,
      name ∈ (Registry.empty.edited edits).order ↔ ∃ schema, LastWrite edits name schema := by
    intro name
    rw [← Registry.isSome_lookup_iff, Option.isSome_iff_exists]
    exact exists_congr (lookup name)
  refine ⟨Registry.entries_eq mirrors, Registry.keyed _, lookup, ?_, ?_,
    Text.increasing_sorted (Registry.keyed _).distinct, Registry.ofList_schemas _⟩
  · have names : {name | ∃ schema, LastWrite edits name schema}
        = ((Registry.empty.edited edits).order.toFinset : Set String) := by
      ext name
      simp [present]
    rw [names, Set.ncard_coe_finset, List.toFinset_card_of_nodup (Registry.keyed _).distinct, Registry.size,
      Registry.order, List.length_map]
  · intro name
    rw [Registry.names, Text.mem_sorted, present]

/-- Whatever a store starts with and is asked for: what it holds, however changed after that, is the
map that the same declarations, actions and changes lead to. -/
theorem snapshot_refines (initial : List ToolSchema) (actions : List StoreAction)
    (edits : List RegistryEdit) :
    Refines ((RegistryStore.after initial actions).current.edited edits)
      ((OrderedMap.after initial actions).edited edits)
      (StoreAction.history initial actions ++ edits) := by
  have registry_eq : (RegistryStore.after initial actions).current.edited edits
      = Registry.empty.edited (StoreAction.history initial actions ++ edits) := by
    rw [RegistryStore.current_after, Registry.edited_append]
  have map_eq : (OrderedMap.after initial actions).edited edits
      = OrderedMap.empty.edited (StoreAction.history initial actions ++ edits) := by
    rw [OrderedMap.after_eq, OrderedMap.edited_append]
  rw [registry_eq, map_eq]
  exact refines_edited _

/-- A name that was taken away and comes again stands last. -/
example :
    (RegistryStore.after [⟨"a", "", [], []⟩, ⟨"b", "", [], []⟩]
      [.unregister "a", .register ⟨"a", "", [], []⟩]).current.order = ["b", "a"] := by
  decide

end CallPlan
