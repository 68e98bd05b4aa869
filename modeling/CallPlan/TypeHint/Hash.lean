import CallPlan.TypeHint.Equality

/-!
# CallPlan.TypeHint.Hash

The hashes of values.

* A number has as its hash what it leaves when it is divided by a prime, so that equal numbers of
  different kinds have the same one.
* The hash of a tuple mixes those of its items.
* What else has a hash has one that says nothing.
-/

namespace CallPlan

namespace TypeHint

namespace Hash

/-- The prime by which numbers are divided. -/
def modulus : Nat := 2305843009213693951

/-- A hash of a sign and a size; minus one stands for a failure, and so is none. -/
def signed (isNegative : Bool) (size : Nat) : Int :=
  let n : Int := if isNegative then -(size : Int) else size
  if n = -1 then -2 else n

/-- The hash of a whole number. -/
def int (n : Int) : Int := signed (n < 0) (n.natAbs % modulus)

/-- The hash of a number. -/
def float (x : Binary64) : Int :=
  match x.toRatio?, x with
  | some (p, q), _ =>
    -- the denominator is a power of two, whose inverse is another one
    let shift := (61 - q.log2 % 61) % 61
    signed (p < 0) (p.natAbs * Nat.pow 2 shift % modulus)
  | none, .infinite negative => if negative then -314159 else 314159
  | none, _ => 0

/-- A number as a machine word with sign. -/
def word (n : Int) : Int := ((n + 9223372036854775808) % 18446744073709551616) - 9223372036854775808

/-- The hash of a complex number. -/
def complex (x y : Binary64) : Int :=
  let n := word (float x + 1000003 * float y)
  if n = -1 then -2 else n

/-- The hash of some items that have hashes. -/
def items (hashes : List Int) : Int :=
  let start : UInt64 := 2870177450012600261
  let mixed := hashes.foldl (fun (state : UInt64) hash =>
    let state := state + UInt64.ofInt hash * 14029467366897019727
    ((state <<< 31) ||| (state >>> 33)) * 11400714785074694791) start
  let mixed := mixed + (UInt64.ofNat hashes.length ^^^ (start ^^^ 3527539))
  if mixed = 18446744073709551615 then 1546275796 else word mixed.toNat

/-- The hash of a value that has one; a step of fuel for each level of it. -/
def of (store : Store) : (fuel : Nat) → Value → Int
  | 0, _ => 1
  | fuel + 1, value =>
    match store.plainIn value with
    | .bool b => if b then 1 else 0
    | .int n => int n
    | .float x => float x
    | .complex x y => complex x y
    | .tuple values => items (values.map (of store fuel))
    | .text "" | .bytes [] => 0
    | _ => 1

end Hash

end TypeHint

end CallPlan
