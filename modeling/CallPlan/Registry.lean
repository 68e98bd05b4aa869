import CallPlan.ToolSchema
import CallPlan.Text.Sorted

/-!
# CallPlan.Registry

The registered tools.

* A `Registry` maps tool names to declarations, in the order of their first registration: writing a
  present name replaces its declaration in place, writing an absent one appends it. Each change
  builds a new registry from the declarations that remain.
* A registry never changes. A `RegistryStore` holds the current one; each write puts a new registry
  in its place, so a validation that holds a registry keeps seeing the same tools.
-/

namespace CallPlan

/-- Declarations of tools under their own names, each name once, in the order of registration. -/
structure Registry where
  entries : List (String × ToolSchema)
  distinct : (entries.map Prod.fst).Nodup
  ownName : ∀ entry ∈ entries, entry.1 = entry.2.name
  deriving DecidableEq

namespace Registry

/-- No tools. -/
def empty : Registry := ⟨[], List.nodup_nil, nofun⟩

instance : Inhabited Registry := ⟨empty⟩

/-- The declaration under a name. -/
def lookup (registry : Registry) (name : String) : Option ToolSchema :=
  List.lookup name registry.entries

/-- Whether a name is registered. -/
def contains (registry : Registry) (name : String) : Bool := (registry.lookup name).isSome

/-! ### Entries with one written -/

/-- Entries with one written: in its place if the name is present, else at the end. -/
def put (name : String) (schema : ToolSchema) :
    List (String × ToolSchema) → List (String × ToolSchema)
  | [] => [(name, schema)]
  | (n, s) :: rest => if n = name then (n, schema) :: rest else (n, s) :: put name schema rest

section
variable {name : String} {schema : ToolSchema} {entries : List (String × ToolSchema)}

theorem keys_put :
    (put name schema entries).map Prod.fst
      = if name ∈ entries.map Prod.fst then entries.map Prod.fst
        else entries.map Prod.fst ++ [name] := by
  induction entries with
  | nil => simp [put]
  | cons entry rest ih =>
      rw [put]
      split
      next same => simp [same]
      next different =>
        have elsewhere : name ≠ entry.1 := Ne.symm different
        simp only [List.map_cons, ih, List.mem_cons, elsewhere, false_or]
        split <;> rfl

theorem nodup_put (h : (entries.map Prod.fst).Nodup) :
    ((put name schema entries).map Prod.fst).Nodup := by
  rw [keys_put]
  split
  next => exact h
  next absent =>
    refine List.nodup_append.2 ⟨h, by simp, fun n held other hother => ?_⟩
    rw [List.mem_singleton.1 hother]
    exact fun same => absent (same ▸ held)

/-- What is held after a declaration was written was held before, or is the one that was written. -/
theorem mem_of_mem_put {entry : String × ToolSchema} (h : entry ∈ put name schema entries) :
    entry ∈ entries ∨ entry = (name, schema) := by
  induction entries with
  | nil => exact .inr (List.mem_singleton.1 h)
  | cons first rest ih =>
      rw [put] at h
      split at h
      next same =>
        rcases List.mem_cons.1 h with e | h
        · exact .inr (by rw [e, same])
        · exact .inl (List.mem_cons_of_mem _ h)
      next =>
        rcases List.mem_cons.1 h with e | h
        · exact .inl (e ▸ List.mem_cons_self ..)
        · exact (ih h).imp_left (List.mem_cons_of_mem _)

end

/-! ### Registries of declarations -/

/-- The entries of a registry with a declaration written under its name. -/
def write (registry : Registry) (schema : ToolSchema) : Registry where
  entries := put schema.name schema registry.entries
  distinct := nodup_put registry.distinct
  ownName entry hentry := by
    rcases mem_of_mem_put hentry with held | rfl
    · exact registry.ownName entry held
    · rfl

/-- The registry of a list of declarations, written one after the other. -/
def ofList (schemas : List ToolSchema) : Registry := schemas.foldl write empty

/-- The registry with a declaration added, or replaced under its name: built anew from the
declarations that are then held. -/
def withSchema (registry : Registry) (schema : ToolSchema) : Registry :=
  ofList ((put schema.name schema registry.entries).map Prod.snd)

/-- The registry without a name, built anew from the declarations under the others. -/
def without (registry : Registry) (name : String) : Registry :=
  ofList ((registry.entries.filter fun (n, _) => n ≠ name).map Prod.snd)

/-- The declarations, in order. -/
def schemas (registry : Registry) : List ToolSchema := registry.entries.map Prod.snd

/-- The names, in order of registration. -/
def order (registry : Registry) : List String := registry.entries.map Prod.fst

/-- The names, sorted. -/
def names (registry : Registry) : List String := Text.sorted registry.order

/-- The number of tools. -/
def size (registry : Registry) : Nat := registry.entries.length

end Registry

/-- The current registry, and how often it has been replaced. -/
structure RegistryStore where
  current : Registry
  version : Nat
  deriving Inhabited

namespace RegistryStore

/-- A store that starts with a registry. -/
def ofRegistry (registry : Registry) : RegistryStore := ⟨registry, 0⟩

/-- Makes a registry the current one. -/
def replace (store : RegistryStore) (registry : Registry) : RegistryStore :=
  ⟨registry, store.version + 1⟩

/-- Adds or replaces a declaration. -/
def register (store : RegistryStore) (schema : ToolSchema) : RegistryStore :=
  store.replace (store.current.withSchema schema)

/-- Removes a name. -/
def unregister (store : RegistryStore) (name : String) : RegistryStore :=
  store.replace (store.current.without name)

end RegistryStore

end CallPlan
