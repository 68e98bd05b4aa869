import CallPlan.Proofs.Json.Reading
import CallPlan.Proofs.Json.Short

/-!
# CallPlan.Proofs.Json.Finite

Values of which a record loses nothing when it is written: all their numbers are finite
(`finiteOnly_of_isFinite`) and short (`Readable.isShort`), their keys can be encoded
(`Readable.unencodableKey?_eq_none`), and they are not nested too deep (`isWritable_of_takes`).
-/

namespace CallPlan

namespace Json

/-! ## Finite values -/

mutual

/-- A value whose numbers are finite stands for itself. -/
theorem finiteOnly_of_isFinite : ∀ {value : Json}, value.isFinite = true → value.finiteOnly = value
  | .null, _ | .bool _, _ | .num (.int _), _ | .str _, _ => rfl
  | .num (.float _), finite => if_pos finite
  | .arr _, finite => congrArg Json.arr (finiteOnlyItems_of_isFinite finite)
  | .obj _, finite => congrArg Json.obj (finiteOnlyMembers_of_isFinite finite)

theorem finiteOnlyItems_of_isFinite :
    ∀ {items : List Json}, isFiniteItems items = true → finiteOnlyItems items = items
  | [], _ => rfl
  | item :: rest, finite => by
      obtain ⟨first, others⟩ := Bool.and_eq_true_iff.1 finite
      rw [finiteOnlyItems, finiteOnly_of_isFinite first, finiteOnlyItems_of_isFinite others]

theorem finiteOnlyMembers_of_isFinite :
    ∀ {members : Members}, isFiniteMembers members = true → finiteOnlyMembers members = members
  | [], _ => rfl
  | (key, value) :: rest, finite => by
      obtain ⟨first, others⟩ := Bool.and_eq_true_iff.1 finite
      rw [finiteOnlyMembers, finiteOnly_of_isFinite first, finiteOnlyMembers_of_isFinite others]

end

theorem isFiniteItems_iff {items : List Json} :
    isFiniteItems items = true ↔ ∀ item ∈ items, item.isFinite = true := by
  induction items with
  | nil => simp [isFiniteItems]
  | cons item rest ih => simp [isFiniteItems, ih]

theorem isFiniteMembers_iff {members : Members} :
    isFiniteMembers members = true ↔ ∀ member ∈ members, member.2.isFinite = true := by
  induction members with
  | nil => simp [isFiniteMembers]
  | cons member rest ih =>
      simp only [isFiniteMembers, Bool.and_eq_true, ih, List.forall_mem_cons]

theorem Readable.isFinite {value : Json} (h : value.Readable) : value.isFinite = true := by
  induction h with
  | null | bool | int | str => rfl
  | arr each ih => exact isFiniteItems_iff.2 ih
  | obj distinct names each ih => exact isFiniteMembers_iff.2 ih

theorem Readable.isShort {value : Json} (h : value.Readable) : value.isShort = true := by
  induction h with
  | null | bool | str => rfl
  | int short => simpa [Json.isShort, numbers, isShortNumber, Text.isShortNumber] using short
  | arr each ih => exact isShort_arr.2 ih
  | obj distinct names each ih => exact isShort_obj.2 ih

/-! ## Keys -/

theorem unencodableKey?_eq_none_iff {value : Json} :
    value.unencodableKey? = none ↔
      ∀ key ∈ value.allKeys, Text.unencodable? key.toList = none :=
  List.findSome?_eq_none_iff

mutual

/-- A value without content counts for the depth, but not for the nesting. -/
theorem depth_le_nesting : ∀ value : Json, value.depth ≤ value.nesting + 1
  | .null | .bool _ | .num _ | .str _ | .arr [] | .obj [] => Nat.le_refl 1
  | .arr (item :: rest) => Nat.succ_le_succ (itemsDepth_le_levels (item :: rest))
  | .obj (member :: rest) => Nat.succ_le_succ (membersDepth_le_levels (member :: rest))

theorem itemsDepth_le_levels : ∀ items : List Json, itemsDepth items ≤ itemsLevels false items + 1
  | [] => Nat.zero_le _
  | item :: rest => by
      have first := depth_le_nesting item
      have others := itemsDepth_le_levels rest
      rw [nesting] at first
      rw [itemsDepth, itemsLevels]
      omega

theorem membersDepth_le_levels :
    ∀ members : Members, membersDepth members ≤ membersLevels false members + 1
  | [] => Nat.zero_le _
  | (_, value) :: rest => by
      have first := depth_le_nesting value
      have others := membersDepth_le_levels rest
      rw [nesting] at first
      rw [membersDepth, membersLevels]
      omega

end

theorem nesting_le_membersLevels {members : Members} {member : String × Json}
    (h : member ∈ members) : member.2.nesting ≤ membersLevels false members := by
  induction members with
  | nil => cases h
  | cons other rest ih =>
      rw [membersLevels]
      rcases List.mem_cons.1 h with rfl | inside
      · exact Nat.le_max_left _ _
      · exact Nat.le_trans (ih inside) (Nat.le_max_right _ _)

/-- A value in an object is nested less. -/
theorem nesting_lt_of_mem {members : Members} {member : String × Json} (h : member ∈ members) :
    member.2.nesting < (obj members).nesting := by
  have inside := nesting_le_membersLevels h
  cases members with
  | nil => cases h
  | cons other rest => exact Nat.lt_succ_of_le inside

/-- What a reader with a limit takes can be written. -/
theorem isWritable_of_takes {value : Json} (takes : ReadLimits.strict.Takes value.nesting) :
    value.isWritable = true := by
  have nesting : value.nesting ≤ 200 := takes 200 rfl
  have depth := depth_le_nesting value
  exact decide_eq_true (by rw [depthLimit]; omega)

end Json

end CallPlan
