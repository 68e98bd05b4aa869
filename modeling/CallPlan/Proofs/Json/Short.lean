import CallPlan.Json.Printer

/-!
# CallPlan.Proofs.Json.Short

Values without a number of too many digits. Such a value has all written forms (`spelled_of_isShort`),
and so has every part of it (`isShort_of_get?`).
-/

namespace CallPlan

namespace Json

theorem numbersInItems_eq_flatMap (items : List Json) :
    numbersInItems items = items.flatMap numbers := by
  induction items with
  | nil => rfl
  | cons item rest ih => rw [numbersInItems, ih, List.flatMap_cons]

theorem numbersInMembers_eq_flatMap (members : Members) :
    numbersInMembers members = members.flatMap fun member => member.2.numbers := by
  induction members with
  | nil => rfl
  | cons member rest ih => rw [numbersInMembers, ih, List.flatMap_cons]

@[simp] theorem isShort_arr {items : List Json} :
    (arr items).isShort = true ↔ ∀ item ∈ items, item.isShort = true := by
  simp [isShort, numbers, numbersInItems_eq_flatMap, List.all_flatMap]

@[simp] theorem isShort_obj {members : Members} :
    (obj members).isShort = true ↔ ∀ member ∈ members, member.2.isShort = true := by
  simp [isShort, numbers, numbersInMembers_eq_flatMap, List.all_flatMap]

theorem isShort_str (text : String) : (str text).isShort = true := rfl

/-- A value without a number of too many digits has all written forms. -/
theorem spelled_of_isShort {value : Json} (short : value.isShort = true) (form : Json → String) :
    value.spelled form = .ok (form value) :=
  if_pos short

/-- What stands under a key is a part. -/
theorem isShort_of_get? {value inner : Json} {key : String} (short : value.isShort = true)
    (held : value.get? key = some inner) : inner.isShort = true := by
  cases value with
  | obj members =>
      obtain ⟨before, after, rfl, -⟩ := List.lookup_eq_some_iff.1 held
      exact isShort_obj.1 short (key, inner) (by simp)
  | _ => cases held

end Json

end CallPlan
