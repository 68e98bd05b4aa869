import CallPlan.Number.Binary64

/-!
# CallPlan.Number.Arithmetic

Arithmetic of double-precision numbers, and bits of whole ones.

* Sums, products and quotients are exact quotients, rounded once. What is left of a division has the
  sign of the divisor.
* Microseconds, seconds and milliseconds are converted with the same rounding.
* The bits of a negative whole number are those of the number below its magnitude, each the other
  way round.
-/

namespace CallPlan

namespace Binary64

/-- Whether the sign is the negative one. -/
def isNegative : Binary64 → Bool
  | .nan => false
  | .infinite negative | .finite negative _ => negative

/-- A signed quotient, rounded; zero gets the sign asked for. -/
def ofSigned (isNegativeZero : Bool) (num : Int) (den : Nat) : Binary64 :=
  if num = 0 then ofRank isNegativeZero 0 else ofRatio (num < 0) num.natAbs den

/-- The difference of two numbers. -/
def sub (a b : Binary64) : Binary64 := add a b.neg

/-- The product of two numbers. -/
def mul (a b : Binary64) : Binary64 :=
  let negative := a.isNegative != b.isNegative
  match a, b with
  | .nan, _ | _, .nan => .nan
  | .infinite _, other | other, .infinite _ => if other.isZero then .nan else .infinite negative
  | .finite _ m, .finite _ n =>
    let (p, q) := magnitude m
    let (u, v) := magnitude n
    ofSigned negative (if negative then -((p * u : Nat) : Int) else ((p * u : Nat) : Int)) (q * v)

/-- The quotient of two numbers; nothing is divided by zero. -/
def div (a b : Binary64) : Binary64 :=
  let negative := a.isNegative != b.isNegative
  match a, b with
  | .nan, _ | _, .nan => .nan
  | .infinite _, .infinite _ => .nan
  | .infinite _, _ => .infinite negative
  | _, .infinite _ => ofRank negative 0
  | .finite _ m, .finite _ n =>
    let (p, q) := magnitude m
    let (u, v) := magnitude n
    if u = 0 then .nan
    else ofSigned negative (if negative then -((p * v : Nat) : Int) else ((p * v : Nat) : Int))
      (q * u)

/-- The whole number at or below a quotient, and what is left of the division. -/
def floorDiv (a b : Binary64) : Binary64 × Binary64 :=
  match a, b with
  | .nan, _ | _, .nan | .infinite _, _ => (.nan, .nan)
  | .finite negative _, .infinite other =>
    if negative = other || a.isZero then (ofRank (negative != other) 0, a)
    else (ofInt (-1), .infinite other)
  | a, b =>
    match a.toRatio?, b.toRatio? with
    | some (p, q), some (u, v) =>
      -- p / q = n * (u / v) + r, and r is a whole number of parts of q * v
      let x := p * v
      let y := u * q
      let n := x.fdiv y
      let r := x.fmod y
      (if n = 0 then ofRank (a.isNegative != b.isNegative) 0 else ofInt n,
        ofSigned b.isNegative r (q * v))
    | _, _ => (.nan, .nan)

/-- Whether one number is below another; nothing is below what is no number. -/
def isBelow (a b : Binary64) : Bool :=
  match a, b with
  | .nan, _ | _, .nan => false
  | .infinite s, .infinite t => s && !t
  | .infinite s, _ => s
  | _, .infinite t => !t
  | a, b =>
    match a.toRatio?, b.toRatio? with
    | some (p, q), some (u, v) => decide (p * v < u * q)
    | _, _ => false

/-- The whole number at or below a number. -/
def floor? (a : Binary64) : Option Int := a.toRatio?.map fun (p, q) => p.fdiv q

/-- The whole number that is left when the places after the point are cut off. -/
def truncate? (a : Binary64) : Option Int := a.toRatio?.map fun (p, q) => p.tdiv q

/-- A count of microseconds, in seconds. -/
def ofMicros (micros : Int) : Binary64 := ofRatio (micros < 0) micros.natAbs 1000000

/-- The whole milliseconds of a number of seconds; the product is rounded before its places after
the point are cut off. -/
def wholeMillis (seconds : Binary64) : Int := ((seconds.mul (ofInt 1000)).truncate?).getD 0

/-- The bits of a number. -/
def toBits : Binary64 → UInt64
  | .nan => 0x7ff8000000000000
  | .infinite negative => if negative then 0xfff0000000000000 else 0x7ff0000000000000
  | .finite negative rank => UInt64.ofNat rank.val + (if negative then 0x8000000000000000 else 0)

/-- The number of some bits. -/
def ofBits (bits : UInt64) : Binary64 :=
  let n := bits.toNat
  let negative := decide (0x8000000000000000 ≤ n)
  let rank := n % 0x8000000000000000
  if 2047 * span < rank then .nan else ofRank negative rank

/-- A function of machine numbers. -/
def byMachine (f : Float → Float) (a : Binary64) : Binary64 := ofBits (f (.ofBits a.toBits)).toBits

/-- A power. -/
def pow (a b : Binary64) : Binary64 :=
  ofBits ((Float.ofBits a.toBits).pow (Float.ofBits b.toBits)).toBits

end Binary64

/-! ## Bits -/

namespace Bits

/-- The number whose bits are all the other way round. -/
def complement (n : Int) : Int := -n - 1

/-- The bits that two numbers share. -/
def both (m n : Int) : Int :=
  match m, n with
  | .ofNat a, .ofNat b => ((a &&& b : Nat) : Int)
  | .ofNat a, .negSucc b | .negSucc b, .ofNat a => ((a - (a &&& b) : Nat) : Int)
  | .negSucc a, .negSucc b => complement ((a ||| b : Nat) : Int)

/-- The bits that one of two numbers has. -/
def either (m n : Int) : Int := complement (both (complement m) (complement n))

/-- The bits that one of two numbers has and the other has not. -/
def oneOf (m n : Int) : Int :=
  match m, n with
  | .ofNat a, .ofNat b | .negSucc a, .negSucc b => ((a ^^^ b : Nat) : Int)
  | .ofNat a, .negSucc b | .negSucc b, .ofNat a => complement ((a ^^^ b : Nat) : Int)

end Bits

end CallPlan
