import CallPlan.Record.Checked

/-!
# CallPlan.Proofs.Record.Checked

When a check finds nothing wrong: one equivalence for each way in which checks are put together, and
one for each check of a plain value. They take the check of a record apart into its fields.
-/

namespace CallPlan

namespace Checked

variable {α β : Type}

theorem map_eq_ok_iff {f : α → β} {x : Checked α} {b : β} :
    f <$> x = .ok b ↔ ∃ a, x = .ok a ∧ f a = b := by
  cases x with
  | ok a =>
      rw [map_ok]
      constructor
      · intro h
        cases h
        exact ⟨a, rfl, rfl⟩
      · rintro ⟨_, h, rfl⟩
        cases h
        rfl
  | refused issues => exact ⟨nofun, nofun⟩

theorem seq_eq_ok_iff {f : Checked (α → β)} {x : Checked α} {b : β} :
    f <*> x = .ok b ↔ ∃ g a, f = .ok g ∧ x = .ok a ∧ g a = b := by
  cases f with
  | ok g =>
      cases x with
      | ok a =>
          rw [seq_ok]
          constructor
          · intro h
            cases h
            exact ⟨g, a, rfl, rfl, rfl⟩
          · rintro ⟨_, _, h, h', rfl⟩
            cases h
            cases h'
            rfl
      | refused issues => exact ⟨nofun, nofun⟩
  | refused issues =>
      cases x with
      | ok a => exact ⟨nofun, nofun⟩
      | refused more => exact ⟨nofun, nofun⟩

theorem within_eq_ok_iff {step : Location.Part} {x : Checked α} {a : α} :
    within step x = .ok a ↔ x = .ok a := by
  cases x with
  | ok a => exact Iff.rfl
  | refused issues => exact ⟨nofun, nofun⟩

end Checked

namespace Record

variable {α : Type} {check : Json → Checked α} {members : Members} {key : String} {a : α}

theorem required_eq_ok_iff :
    required members key check = .ok a
      ↔ ∃ value, members.get? key = some value ∧ check value = .ok a := by
  unfold required
  cases members.get? key with
  | none => exact ⟨nofun, nofun⟩
  | some value => simp [Checked.within_eq_ok_iff]

theorem optional_eq_ok_iff {default : α} :
    optional members key default check = .ok a
      ↔ members.get? key = none ∧ default = a ∨
        ∃ value, members.get? key = some value ∧ check value = .ok a := by
  unfold optional
  cases members.get? key with
  | none => simp
  | some value => simp [Checked.within_eq_ok_iff]

theorem object_eq_ok_iff {fields : Members → Checked α} {value : Json} :
    object fields value = .ok a ↔ ∃ members, value = .obj members ∧ fields members = .ok a := by
  cases value with
  | obj members => simp [object, objectOr]
  | _ => simp [object, objectOr, Checked.issue]

theorem text_eq_ok_iff {value : Json} {s : String} : text value = .ok s ↔ value = .str s := by
  cases value with
  | str s => simp [text]
  | _ => simp [text, Checked.issue]

/-- Items that a check reads back are read back as a list. -/
theorem itemsFrom_map {toJson : α → Json} (reads : ∀ a, check (toJson a) = .ok a) (index : Nat)
    (as : List α) : itemsFrom check index (as.map toJson) = .ok as := by
  induction as generalizing index with
  | nil => rfl
  | cons a rest ih =>
      rw [List.map_cons, itemsFrom, reads, ih]
      rfl

end Record

end CallPlan
