import CallPlan.Text.Surrogate

/-!
# CallPlan.Text.Sorted

Lists of names in increasing order, compared code point by code point. Two texts of the same code
points are compared by their characters, so that different texts never stand level.
-/

namespace CallPlan

namespace Text

/-- Whether the first of two sequences of numbers comes no later than the second: where they first
differ the smaller number decides, and the beginning of a sequence comes before all of it. -/
def isUpTo : List Nat → List Nat → Bool
  | [], _ => true
  | _ :: _, [] => false
  | m :: ms, n :: ns => m < n || m = n && isUpTo ms ns

/-- Whether the first of two texts comes no later than the second. -/
def precedes (a b : String) : Bool :=
  if points a.toList = points b.toList then
    isUpTo (a.toList.map Char.toNat) (b.toList.map Char.toNat)
  else isUpTo (points a.toList) (points b.toList)

/-- The names in increasing order; a repeated name stays repeated. -/
def sorted (names : List String) : List String := names.mergeSort precedes

/-- The names without repetitions, in increasing order. -/
def sortedSet (names : List String) : List String := sorted names.eraseDups

end Text

end CallPlan
