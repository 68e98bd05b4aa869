/-!
# CallPlan.Text.Boundaries

Classes of characters given by the code points at which they begin and end, in turn and in
increasing order.
-/

namespace CallPlan

namespace Text

/-- Whether a character is in the class with these boundaries: an odd number of them lies at or
below it. -/
def isWithin (boundaries : List Nat) (c : Char) : Bool :=
  (boundaries.takeWhile (· ≤ c.toNat)).length % 2 = 1

@[simp] theorem isWithin_nil (c : Char) : isWithin [] c = false := rfl

/-- Below its first boundary a class has no members; from there on it is the class that the other
boundaries leave out. -/
theorem isWithin_cons (start : Nat) (boundaries : List Nat) (c : Char) :
    isWithin (start :: boundaries) c = (decide (start ≤ c.toNat) && !isWithin boundaries c) := by
  by_cases h : start ≤ c.toNat
  · simp only [isWithin, List.takeWhile_cons, h, decide_true, if_true, List.length_cons,
      Bool.true_and]
    by_cases hb : (boundaries.takeWhile (· ≤ c.toNat)).length % 2 = 1
    · simp only [hb, decide_true, Bool.not_true, decide_eq_false_iff_not]; omega
    · simp only [hb, decide_false, Bool.not_false, decide_eq_true_eq]; omega
  · simp [isWithin, h]

end Text

end CallPlan
