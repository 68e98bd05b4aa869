/-!
# CallPlan.Number.Binary64

Double-precision numbers as exact data.

* The finite magnitudes are numbered in increasing order: rank `0` is zero, rank `1` the smallest
  positive number, and so on up to `Binary64.rankCount - 1`. Every rank is a different number, so
  equality of values is equality of data, up to the sign of zero.
* `Binary64.magnitude` reads a rank as `mantissa * 2 ^ exponent`; `shifted` gives such a product as
  a quotient of natural numbers.
* `Binary64.ofRatio` rounds a quotient of natural numbers to the nearest magnitude, a half to the
  even rank. Because neighbouring magnitudes have neighbouring ranks, rounding up is adding one,
  also across a change of exponent and past the largest number.
-/

namespace CallPlan

/-- `num / den * base ^ power` as a quotient of natural numbers. -/
def shifted (base num den : Nat) (power : Int) : Nat × Nat :=
  match power with
  | .ofNat k => (num * base.pow k, den)
  | .negSucc k => (num, den * base.pow (k + 1))

namespace Binary64

/-- How many magnitudes share an exponent: two to the power 52. -/
def span : Nat := Nat.pow 2 52

/-- How many finite magnitudes there are. -/
def rankCount : Nat := 2047 * span

end Binary64

/-- A double-precision number: a sign and the rank of its magnitude, or one of the special
values. -/
inductive Binary64 where
  | nan
  | infinite (negative : Bool)
  | finite (negative : Bool) (rank : Fin Binary64.rankCount)
  deriving DecidableEq, Inhabited

namespace Binary64

/-- The number with this sign and rank; ranks past the largest one are infinite. -/
def ofRank (negative : Bool) (rank : Nat) : Binary64 :=
  if h : rank < rankCount then .finite negative ⟨rank, h⟩ else .infinite negative

/-- Zero with a positive sign. -/
def zero : Binary64 := .finite false ⟨0, by decide⟩

/-- The mantissa of a rank: all its low bits, with the leading one where the number is normal. -/
def mantissa (rank : Nat) : Nat :=
  if rank < span then rank else span + rank % span

/-- The exponent of a rank, so that its magnitude is `mantissa * 2 ^ exponent`. -/
def exponent (rank : Nat) : Int :=
  (max (rank / span) 1 : Nat) - 1075

/-- The magnitude of a rank as a quotient of natural numbers; the divisor is positive. -/
def magnitude (rank : Nat) : Nat × Nat := shifted 2 (mantissa rank) 1 (exponent rank)

/-- The exponent at which a positive quotient is rounded: its leading bit lands on the 53rd place
of the mantissa, or lower where the number is subnormal. -/
def roundingExponent (num den : Nat) : Int :=
  let guess : Int := (num.log2 : Int) - den.log2 - 53
  -- the quotient lies between 2 ^ (guess + 52) and 2 ^ (guess + 54)
  let middle := shifted 2 num den (-(guess + 53))
  max (if middle.1 < middle.2 then guess else guess + 1) (-1074)

/-- `num / den` rounded to the nearest double-precision number, a half to the even one. -/
def ofRatio (negative : Bool) (num den : Nat) : Binary64 :=
  if num = 0 || den = 0 then ofRank negative 0
  else
    let e := roundingExponent num den
    let scaled := shifted 2 num den (-e)
    let quotient := scaled.1 / scaled.2
    let rest := scaled.1 % scaled.2
    -- a subnormal quotient is its own rank; a normal one has its leading bit in the exponent
    let below := (e + 1074).toNat * span + quotient
    let up := rest * 2 > scaled.2 || (rest * 2 = scaled.2 && below % 2 = 1)
    ofRank negative (if up then below + 1 else below)

/-- `digits * 10 ^ power` rounded to the nearest double-precision number. Magnitudes far outside
the range are settled by their size alone, so that no huge power of ten is computed. -/
def ofDecimal (negative : Bool) (digits : Nat) (power : Int) : Binary64 :=
  if digits = 0 then ofRank negative 0
  else
    -- 10 ^ size is at least the value, and the value at least 10 ^ (size - 1)
    let size : Int := (Nat.toDigits 10 digits).length + power
    if size > 400 then .infinite negative
    else if size < -400 then ofRank negative 0
    else
      let value := shifted 10 digits 1 power
      ofRatio negative value.1 value.2

/-- The double-precision number nearest to an integer. -/
def ofInt (value : Int) : Binary64 := ofRatio (value < 0) value.natAbs 1

/-- Whether the number is neither infinite nor not-a-number. -/
def isFinite : Binary64 → Bool
  | .finite .. => true
  | _ => false

/-- Whether the number is zero, of either sign. -/
def isZero : Binary64 → Bool
  | .finite _ rank => rank.val = 0
  | _ => false

/-- The number as an integer, if it is one. -/
def toInt? : Binary64 → Option Int
  | .finite negative rank =>
    let (num, den) := magnitude rank
    if num % den = 0 then
      some (if negative then -((num / den : Nat) : Int) else ((num / den : Nat) : Int))
    else none
  | _ => none

/-- A finite number as a signed numerator and a positive denominator. -/
def toRatio? : Binary64 → Option (Int × Nat)
  | .finite negative rank =>
    let (num, den) := magnitude rank
    some (if negative then -(num : Int) else num, den)
  | _ => none

/-- The number with the other sign. -/
def neg : Binary64 → Binary64
  | .finite negative rank => .finite (!negative) rank
  | .infinite negative => .infinite (!negative)
  | .nan => .nan

/-- The sum of two finite numbers, rounded; any other sum is taken from the special values. -/
def add (a b : Binary64) : Binary64 :=
  match a, b with
  | .nan, _ | _, .nan => .nan
  | .infinite s, .infinite t => if s = t then .infinite s else .nan
  | .infinite s, _ => .infinite s
  | _, .infinite t => .infinite t
  | .finite s m, .finite t n =>
    let (p, q) := magnitude m
    let (u, v) := magnitude n
    let signed (neg : Bool) (k : Nat) : Int := if neg then -(k : Int) else k
    let sum := signed s (p * v) + signed t (u * q)
    if sum = 0 then ofRank (s && t) 0 else ofRatio (sum < 0) sum.natAbs (q * v)

end Binary64

end CallPlan
