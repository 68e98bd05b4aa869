import CallPlan.Registry
import CallPlan.Proofs.Text.Sorted
import Mathlib.Data.List.Nodup

/-!
# CallPlan.Proofs.Registry.Lookup

Names and declarations of a registry after a change of it.

* What is found under a name, and which names there are in which order, after a declaration was
  written (`lookup_withSchema`, `order_withSchema`) or a name taken away (`lookup_without`,
  `order_without`). Building a registry anew from its declarations, as each change does, gives its
  entries (`entries_ofList`).
* Entries under distinct names are known by both (`filterMap_lookup`).
* The sorted names are those under which something is found (`mem_names_iff`).
-/

namespace CallPlan

namespace Registry

/-! ### Entries with one written -/

section
variable {name other : String} {schema held : ToolSchema} {entries : List (String × ToolSchema)}

theorem mem_put :
    other ∈ (put name schema entries).map Prod.fst
      ↔ other ∈ entries.map Prod.fst ∨ other = name := by
  rw [keys_put]
  split
  next present =>
    refine ⟨Or.inl, fun h => ?_⟩
    rcases h with h | rfl
    · exact h
    · exact present
  next => simp

theorem mem_schemas_put (h : held ∈ (put name schema entries).map Prod.snd) :
    held ∈ entries.map Prod.snd ∨ held = schema := by
  obtain ⟨entry, hentry, rfl⟩ := List.mem_map.1 h
  rcases mem_of_mem_put hentry with hentry | rfl
  · exact .inl (List.mem_map_of_mem hentry)
  · exact .inr rfl

/-- An absent name is written behind all others. -/
theorem put_of_not_mem (absent : name ∉ entries.map Prod.fst) :
    put name schema entries = entries ++ [(name, schema)] := by
  induction entries with
  | nil => rfl
  | cons entry rest ih =>
      rw [List.map_cons, List.mem_cons, not_or] at absent
      rw [put, if_neg (Ne.symm absent.1), ih absent.2]
      rfl

theorem lookup_cons_ite {first : String} :
    List.lookup other ((first, held) :: entries)
      = if other = first then some held else List.lookup other entries := by
  rw [List.lookup_cons]
  by_cases here : other = first
  · simp [here]
  · rw [beq_false_of_ne here, if_neg here]

/-- The declaration that was written is found under its name, and what was there under others. -/
theorem lookup_put :
    List.lookup other (put name schema entries)
      = if other = name then some schema else List.lookup other entries := by
  induction entries with
  | nil => exact lookup_cons_ite
  | cons entry rest ih =>
      obtain ⟨first, before⟩ := entry
      rw [put]
      by_cases same : first = name
      · subst same
        rw [if_pos rfl, lookup_cons_ite, lookup_cons_ite]
        split <;> rfl
      · rw [if_neg same, lookup_cons_ite, lookup_cons_ite, ih]
        by_cases here : other = first
        · simp [here, same]
        · simp [here]

theorem lookup_filter :
    List.lookup other (entries.filter fun (n, _) => n ≠ name)
      = if other = name then none else List.lookup other entries := by
  induction entries with
  | nil => simp
  | cons entry rest ih =>
      obtain ⟨first, before⟩ := entry
      by_cases same : first = name
      · subst same
        rw [List.filter_cons_of_neg (by simp), ih, lookup_cons_ite]
        split <;> rfl
      · rw [List.filter_cons_of_pos (by simpa using same), lookup_cons_ite, lookup_cons_ite, ih]
        by_cases here : other = first
        · simp [here, same]
        · simp [here]

/-- Entries under distinct names are known by the order of these and what is found under each. -/
theorem filterMap_lookup (distinct : (entries.map Prod.fst).Nodup) :
    (entries.map Prod.fst).filterMap (fun n => (List.lookup n entries).map (n, ·)) = entries := by
  induction entries with
  | nil => rfl
  | cons entry rest ih =>
      obtain ⟨first, before⟩ := entry
      rw [List.map_cons, List.nodup_cons] at distinct
      have behind : ∀ n ∈ rest.map Prod.fst,
          (List.lookup n ((first, before) :: rest)).map (n, ·)
            = (List.lookup n rest).map (n, ·) := by
        intro n hn
        have elsewhere : n ≠ first := fun e => distinct.1 (e ▸ hn)
        rw [lookup_cons_ite, if_neg elsewhere]
      rw [List.map_cons, List.filterMap_cons, lookup_cons_ite, if_pos rfl]
      dsimp only [Option.map_some]
      rw [List.filterMap_congr behind, ih distinct.2]

end

/-! ### Registries -/

section
variable {registry : Registry} {name : String} {schema : ToolSchema}

/-- Declarations whose names are absent and distinct come behind what a registry holds. -/
theorem entries_foldl_write (registry : Registry) {behind : List (String × ToolSchema)}
    (distinct : ((registry.entries ++ behind).map Prod.fst).Nodup)
    (ownName : ∀ entry ∈ behind, entry.1 = entry.2.name) :
    ((behind.map Prod.snd).foldl write registry).entries = registry.entries ++ behind := by
  -- No name comes twice, so each declaration is put behind what has been built so far.
  induction behind generalizing registry with
  | nil => rw [List.append_nil]; rfl
  | cons entry rest ih =>
      obtain ⟨name, schema⟩ := entry
      obtain ⟨rfl : name = schema.name, others⟩ := List.forall_mem_cons.1 ownName
      have absent : schema.name ∉ registry.entries.map Prod.fst := by
        rw [List.map_append, List.map_cons] at distinct
        exact fun held => (List.disjoint_of_nodup_append distinct) held (List.mem_cons_self ..)
      have next : (registry.write schema).entries = registry.entries ++ [(schema.name, schema)] :=
        put_of_not_mem absent
      rw [List.append_cons, ← next] at distinct ⊢
      exact ih _ distinct others

/-- A registry built anew from entries under their own distinct names holds these. -/
theorem entries_ofList {entries : List (String × ToolSchema)}
    (distinct : (entries.map Prod.fst).Nodup)
    (ownName : ∀ entry ∈ entries, entry.1 = entry.2.name) :
    (ofList (entries.map Prod.snd)).entries = entries :=
  entries_foldl_write empty distinct ownName

theorem entries_withSchema (registry : Registry) (schema : ToolSchema) :
    (registry.withSchema schema).entries = put schema.name schema registry.entries :=
  entries_ofList (registry.write schema).distinct (registry.write schema).ownName

/-- Building a registry anew with a declaration is writing it. -/
theorem withSchema_eq_write (registry : Registry) (schema : ToolSchema) :
    registry.withSchema schema = registry.write schema := by
  rw [Registry.mk.injEq]
  exact entries_withSchema registry schema

theorem entries_without (registry : Registry) (name : String) :
    (registry.without name).entries = registry.entries.filter fun (n, _) => n ≠ name :=
  entries_ofList (registry.distinct.sublist (List.filter_sublist.map _)) fun entry hentry =>
    registry.ownName entry (List.mem_of_mem_filter hentry)

theorem lookup_withSchema (registry : Registry) (schema : ToolSchema) (name : String) :
    (registry.withSchema schema).lookup name
      = if name = schema.name then some schema else registry.lookup name := by
  rw [lookup, entries_withSchema]
  exact lookup_put

theorem lookup_without (registry : Registry) (removed name : String) :
    (registry.without removed).lookup name
      = if name = removed then none else registry.lookup name := by
  rw [lookup, entries_without]
  exact lookup_filter

theorem isSome_lookup_iff : (registry.lookup name).isSome = true ↔ name ∈ registry.order := by
  rw [lookup, List.lookup_isSome_iff, order, List.mem_map]
  constructor
  · rintro ⟨entry, hentry, same⟩
    exact ⟨entry, hentry, (eq_of_beq same).symm⟩
  · rintro ⟨entry, hentry, rfl⟩
    exact ⟨entry, hentry, BEq.rfl⟩

theorem order_withSchema :
    (registry.withSchema schema).order
      = if schema.name ∈ registry.order then registry.order
        else registry.order ++ [schema.name] := by
  rw [order, entries_withSchema]
  exact keys_put

theorem mem_order_withSchema :
    name ∈ (registry.withSchema schema).order ↔ name ∈ registry.order ∨ name = schema.name := by
  rw [order, entries_withSchema]
  exact mem_put

theorem order_without (registry : Registry) (name : String) :
    (registry.without name).order = registry.order.filter (· ≠ name) := by
  rw [order, order, entries_without, List.filter_map]
  rfl

theorem mem_names_iff : name ∈ registry.names ↔ registry.contains name = true := by
  rw [names, Text.mem_sorted, contains, isSome_lookup_iff]

theorem mem_schemas_of_lookup (known : registry.lookup name = some schema) :
    schema ∈ registry.schemas := by
  obtain ⟨before, after, e, -⟩ := List.lookup_eq_some_iff.1 known
  rw [schemas, e, List.map_append]
  exact List.mem_append_right _ (List.mem_cons_self ..)

end

end Registry

end CallPlan
