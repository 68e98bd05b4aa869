import CallPlan.Proofs.Json.Rewriting
import CallPlan.Proofs.Validation.Fault

/-!
# CallPlan.Proofs.Validation.Argument

Which leaf of its arguments a call is blamed for.

* A written location can be taken apart again if its keys are `Ordinary`: a key ends where the next
  step begins with a mark, and an index at its closing bracket (`append_inj_of_stops`). So what is
  written alike is alike (`chars_inj`).
* A violation names the location of the leaf whose check it ends (`argument_of_checkText`), and no
  two leaves stand at the same location. So it names one leaf (`argument_told_apart`).
-/

namespace CallPlan

namespace Location

/-! ### Taking apart -/

/-- A text that goes on as long as a condition holds is known from what it is the beginning of. -/
theorem append_inj_of_stops {p : Char → Bool} {xs ys rest rest' : List Char}
    (inside : ∀ c ∈ xs, p c = true) (inside' : ∀ c ∈ ys, p c = true)
    (stops : rest.takeWhile p = []) (stops' : rest'.takeWhile p = [])
    (same : xs ++ rest = ys ++ rest') : xs = ys ∧ rest = rest' := by
  have begun := congrArg (List.takeWhile p) same
  rw [List.takeWhile_append_of_pos inside, List.takeWhile_append_of_pos inside', stops, stops',
    List.append_nil, List.append_nil] at begun
  subst begun
  exact ⟨rfl, List.append_cancel_left same⟩

/-! ### Indices -/

theorem toDigits_inj {m n : Nat} (same : Nat.toDigits 10 m = Nat.toDigits 10 n) : m = n := by
  have value (k : Nat) : Nat.ofDigitChars 10 (Nat.toDigits 10 k) 0 = k :=
    Nat.ofDigitChars_toDigits (by decide) (by decide)
  rw [← value m, same, value n]

theorem not_mem_toDigits {c : Char} (other : c.isDigit = false) (n : Nat) :
    c ∉ Nat.toDigits 10 n := by
  intro member
  have digit := Nat.isDigit_of_mem_toDigits (by decide) (by decide) member
  exact Bool.false_ne_true (other.symm.trans digit)

theorem intDigits_inj {i j : Int} (same : intDigits i = intDigits j) : i = j := by
  have unsigned {m n : Nat} : '-' :: Nat.toDigits 10 m ≠ Nat.toDigits 10 n := fun same =>
    not_mem_toDigits (by decide) n (same ▸ List.mem_cons_self)
  unfold intDigits at same
  split at same <;> split at same
  · have digits := toDigits_inj (List.cons.inj same).2
    omega
  · exact absurd same unsigned
  · exact absurd same.symm unsigned
  · have digits := toDigits_inj same
    omega

theorem ne_bracket_of_mem_intDigits {i : Int} {c : Char} (member : c ∈ intDigits i) :
    c ≠ ']' := by
  rintro rfl
  have unsigned := not_mem_toDigits (c := ']') (by decide) i.natAbs
  unfold intDigits at member
  split at member
  · rcases List.mem_cons.1 member with sign | digit
    · exact absurd sign (by decide)
    · exact unsigned digit
  · exact unsigned member

/-! ### Keys -/

/-- A character with which a step begins that does not stand first. -/
def isMark (c : Char) : Bool := c = '.' || c = '['

/-- A key that cannot be taken for several steps, or for none. -/
structure IsOrdinary (key : String) : Prop where
  nonempty : key ≠ ""
  dot : '.' ∉ key.toList
  bracket : '[' ∉ key.toList

/-- The keys of a location are ordinary. -/
def Ordinary (location : Location) : Prop := ∀ key, .key key ∈ location → IsOrdinary key

theorem IsOrdinary.not_isMark {key : String} (ordinary : IsOrdinary key) :
    ∀ c ∈ key.toList, (!isMark c) = true := by
  intro c member
  have dot : c ≠ '.' := fun same => ordinary.dot (same ▸ member)
  have bracket : c ≠ '[' := fun same => ordinary.bracket (same ▸ member)
  simp [isMark, dot, bracket]

theorem IsOrdinary.exists_cons {key : String} (ordinary : IsOrdinary key) :
    ∃ c cs, key.toList = c :: cs ∧ c ≠ '[' := by
  have nonempty : key.toList ≠ [] := mt String.toList_eq_nil_iff.1 ordinary.nonempty
  obtain ⟨c, cs, chars⟩ := List.exists_cons_of_ne_nil nonempty
  exact ⟨c, cs, chars, fun same => ordinary.bracket (by rw [chars, same]; exact .head _)⟩

/-- Behind a step another one begins with a mark. -/
theorem stops_chars (location : Location) :
    (location.chars false).takeWhile (fun c => !isMark c) = [] := by
  match location with
  | [] => rfl
  | .index i :: rest => rfl
  | .key key :: rest => rfl

/-! ### Locations -/

theorem chars_key {key : String} (ordinary : IsOrdinary key) (atStart : Bool)
    (rest : Location) :
    chars atStart (.key key :: rest)
      = (if atStart then [] else ['.']) ++ (key.toList ++ chars false rest) := by
  obtain ⟨c, cs, key_eq, -⟩ := ordinary.exists_cons
  cases atStart with
  | true => simp [chars, key_eq]
  | false => rfl

/-- A key is not written like an index. -/
theorem chars_key_ne_index {key : String} (ordinary : IsOrdinary key) (atStart : Bool) (i : Int)
    (rest rest' : Location) :
    chars atStart (.key key :: rest) ≠ chars atStart (.index i :: rest') := by
  obtain ⟨c, cs, key_eq, noBracket⟩ := ordinary.exists_cons
  intro same
  have first := congrArg List.head? same
  rw [chars_key ordinary, key_eq] at first
  cases atStart with
  | true => exact noBracket (Option.some.inj first)
  | false => exact absurd (Option.some.inj first) (by decide)

theorem chars_ne_nil {step : Location.Part} {rest : Location} (ordinary : Ordinary (step :: rest))
    (atStart : Bool) : chars atStart (step :: rest) ≠ [] := by
  cases step with
  | index i => exact List.cons_ne_nil _ _
  | key key =>
      obtain ⟨c, cs, key_eq, -⟩ := (ordinary key (.head _)).exists_cons
      rw [chars_key (ordinary key (.head _)), key_eq]
      simp

/-- The first step and what follows it are known from how they are written. -/
theorem chars_cons_inj {step step' : Location.Part} {rest rest' : Location}
    (ordinary : Ordinary (step :: rest)) (ordinary' : Ordinary (step' :: rest')) {atStart : Bool}
    (same : chars atStart (step :: rest) = chars atStart (step' :: rest')) :
    step = step' ∧ chars false rest = chars false rest' := by
  cases step with
  | index i =>
      cases step' with
      | index j =>
          have inner {k : Int} (c : Char) (member : c ∈ intDigits k) : decide (c ≠ ']') = true :=
            decide_eq_true (ne_bracket_of_mem_intDigits member)
          -- The digits end at the closing bracket.
          obtain ⟨digits, closed⟩ := append_inj_of_stops inner inner rfl rfl (List.cons.inj same).2
          exact ⟨congrArg _ (intDigits_inj digits), (List.cons.inj closed).2⟩
      | key key =>
          exact absurd same.symm (chars_key_ne_index (ordinary' key (.head _)) atStart _ _ _)
  | key key =>
      have own := ordinary key (.head _)
      cases step' with
      | index j => exact absurd same (chars_key_ne_index own atStart _ _ _)
      | key key' =>
          have own' := ordinary' key' (.head _)
          rw [chars_key own, chars_key own'] at same
          -- The keys end at the mark that follows, or with the whole text.
          obtain ⟨keys, behind⟩ := append_inj_of_stops own.not_isMark own'.not_isMark
            (stops_chars rest) (stops_chars rest') (List.append_cancel_left same)
          exact ⟨congrArg _ (String.toList_inj.1 keys), behind⟩

/-- Locations with ordinary keys that are written alike are the same. -/
theorem chars_inj {p q : Location} (ordinary : p.Ordinary) (ordinary' : q.Ordinary)
    {atStart : Bool} (same : p.chars atStart = q.chars atStart) : p = q := by
  induction p generalizing q atStart with
  | nil =>
      cases q with
      | nil => rfl
      | cons step rest => exact absurd same.symm (chars_ne_nil ordinary' atStart)
  | cons step rest ih =>
      cases q with
      | nil => exact absurd same (chars_ne_nil ordinary atStart)
      | cons step' rest' =>
          obtain ⟨rfl, behind⟩ := chars_cons_inj ordinary ordinary' same
          rw [ih (fun key member => ordinary key (.tail _ member))
            (fun key member => ordinary' key (.tail _ member)) behind]

theorem text_inj {p q : Location} (ordinary : p.Ordinary) (ordinary' : q.Ordinary)
    (same : p.text = q.text) : p = q :=
  chars_inj ordinary ordinary' (String.ofList_injective same)

end Location

namespace Validation

/-! ### Violations -/

/-- A violation names the location of the text that was checked. -/
theorem argument_of_checkText {registry : Registry} {plan : ToolCalls} {index : Nat} {input : Json}
    {place : Location} {text : String} {v : Violation}
    (violated : checkText registry plan index input place text = .error (.violation v)) :
    v.argument = place.text := by
  unfold checkText checkReference at violated
  split at violated
  · cases violated
  · cases violated
    rfl
  · split at violated
    · dsimp only at violated
      split at violated
      · cases violated
        rfl
      · cases violated
      · obtain ⟨found, wanted, types, expected, differ, rfl⟩ :=
          checkTypes_eq_violation_iff.1 violated
        rfl
    · cases violated
      rfl

/-- A check of a leaf of some arguments ends with a violation. The leaf is known by its position
among all leaves, and the keys of its location are ordinary. -/
def ViolatedAt (arguments : Members) (position : Nat) (v : Violation) : Prop :=
  ∃ place text, (Json.obj arguments).leaves[position]? = some (place, text) ∧ place.Ordinary ∧
    ∃ registry plan index input,
      checkText registry plan index input place text = .error (.violation v)

/-- Leaves whose locations are written alike are the same. -/
theorem position_eq_of_text_eq {value : Json} (distinct : value.Distinct) {i j : Nat}
    {leaf leaf' : Location × String} (stands : value.leaves[i]? = some leaf)
    (stands' : value.leaves[j]? = some leaf') (ordinary : leaf.1.Ordinary)
    (ordinary' : leaf'.1.Ordinary) (same : leaf.1.text = leaf'.1.text) : i = j := by
  have within : i < (value.leaves.map Prod.fst).length := by
    rw [List.length_map]
    exact (List.getElem?_eq_some_iff.1 stands).1
  rw [← List.getElem?_inj within distinct.nodup_leaves, List.getElem?_map, List.getElem?_map,
    stands, stands', Option.map_some, Option.map_some, Location.text_inj ordinary ordinary' same]

/-- **Arguments are told apart by how they are written**: locations with ordinary keys that are
written alike are the same, so the violations of two leaves of a call name different arguments. -/
theorem argument_told_apart :
    (∀ p q : Location, p.Ordinary → q.Ordinary → p.text = q.text → p = q) ∧
      ∀ arguments : Members, (Json.obj arguments).Distinct →
        ∀ (i j : Nat) (v v' : Violation), i ≠ j → ViolatedAt arguments i v →
          ViolatedAt arguments j v' → v.argument ≠ v'.argument := by
  refine ⟨fun p q => Location.text_inj, ?_⟩
  intro arguments distinct i j v v' differ violated violated' same
  obtain ⟨place, text, stands, ordinary, _, _, _, _, violated⟩ := violated
  obtain ⟨place', text', stands', ordinary', _, _, _, _, violated'⟩ := violated'
  rw [argument_of_checkText violated, argument_of_checkText violated'] at same
  exact differ (position_eq_of_text_eq distinct stands stands' ordinary ordinary' same)

end Validation

namespace Sample

/-- A location in a list of rows. -/
def cell (row : Nat) : Location := [.key "rows", .index row]

theorem ordinary_cell (row : Nat) : (cell row).Ordinary := by
  intro key member
  simp only [cell, List.mem_cons, List.not_mem_nil, or_false, reduceCtorEq,
    Location.Part.key.injEq] at member
  subst member
  exact ⟨by decide, by decide, by decide⟩

/-- Arguments with two rows that refer to a call that is not there. -/
def rows : Members := [("rows", .arr [.str "$7.output.a", .str "$7.output.a"])]

theorem distinct_rows : (Json.obj rows).Distinct := by
  refine .obj (by decide) (List.forall_mem_singleton.2 (.arr ?_))
  exact List.forall_mem_cons.2 ⟨.str _, List.forall_mem_singleton.2 (.str _)⟩

theorem violatedAt_rows (row : Nat)
    (stands : (Json.obj rows).leaves[row]? = some (cell row, "$7.output.a")) :
    Validation.ViolatedAt rows row ⟨0, (cell row).text, "$7.output.a", .outOfBounds 7⟩ :=
  ⟨cell row, "$7.output.a", stands, ordinary_cell row, .empty, ⟨"", []⟩, 0, .null, rfl⟩

end Sample

theorem Validation.argument_told_apart_rows :
    (∀ row, (Sample.cell row).Ordinary) ∧ (Sample.cell 0).text ≠ (Sample.cell 1).text ∧
      (Json.obj Sample.rows).Distinct ∧ ∃ v v', ViolatedAt Sample.rows 0 v ∧
        ViolatedAt Sample.rows 1 v' ∧ v.argument ≠ v'.argument := by
  have apart : (Sample.cell 0).text ≠ (Sample.cell 1).text := fun same =>
    absurd (argument_told_apart.1 _ _ (Sample.ordinary_cell 0) (Sample.ordinary_cell 1) same)
      (by decide)
  have violated := Sample.violatedAt_rows 0 rfl
  have violated' := Sample.violatedAt_rows 1 rfl
  exact ⟨Sample.ordinary_cell, apart, Sample.distinct_rows, _, _, violated, violated',
    argument_told_apart.2 Sample.rows Sample.distinct_rows 0 1 _ _ (by decide) violated violated'⟩

end CallPlan
