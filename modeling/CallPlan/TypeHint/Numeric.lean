import CallPlan.Number.Arithmetic
import CallPlan.TypeHint.Equality

/-!
# CallPlan.TypeHint.Numeric

Numbers among values, and what is computed with them.

* A number is whole, real or complex. Of two numbers the simpler one is first made like the other
  one.
* A quotient of whole numbers is rounded once; division that leaves whole numbers goes to the one
  below.
* Numbers compare by what they count, without rounding.
-/

namespace CallPlan

namespace TypeHint

/-- A number. -/
inductive Numeral where
  | int (value : Int)
  | float (value : Binary64)
  | complex (real imaginary : Binary64)
  deriving DecidableEq, Inhabited

namespace Numeral

/-- The number that a value is. -/
def of? : Value → Option Numeral
  | .int n => some (.int n)
  | .bool b => some (.int (if b then 1 else 0))
  | .float x => some (.float x)
  | .complex x y => some (.complex x y)
  | _ => none

/-- A number as a value. -/
def toValue : Numeral → Value
  | .int n => .int n
  | .float x => .float x
  | .complex x y => .complex x y

/-- The real number nearest to a whole one. -/
def ofInt (n : Int) : Except Fault Binary64 :=
  match Binary64.ofInt n with
  | .infinite _ => .error .beyondRange
  | x => .ok x

/-- A real number as one; complex numbers are none. -/
def real : Numeral → Except Fault Binary64
  | .int n => ofInt n
  | .float x => .ok x
  | .complex .. => .error .unsuited

/-- The real and the imaginary part of a number. -/
def parts : Numeral → Except Fault (Binary64 × Binary64)
  | .int n => return (← ofInt n, .zero)
  | .float x => return (x, .zero)
  | .complex x y => return (x, y)

/-! ## Order -/

/-- Whether one real number is below another. -/
def isBelow : Numeral → Numeral → Option Bool
  | .complex .., _ | _, .complex .. => none
  | .int m, .int n => some (decide (m < n))
  | .float x, .float y => some (x.isBelow y)
  | .int m, .float y =>
    some (match y with
      | .nan => false
      | .infinite negative => !negative
      | y => (y.toRatio?).any fun (p, q) => decide (m * q < p))
  | .float x, .int n =>
    some (match x with
      | .nan => false
      | .infinite negative => negative
      | x => (x.toRatio?).any fun (p, q) => decide (p < n * q))

/-! ## Powers -/

/-- How many bits a whole number may have. -/
def bitLimit : Nat := 4000000

/-- What a number that takes too much room comes to. -/
def tooLarge : Fault := ⟨"MemoryError", ""⟩

/-- A power of real numbers. -/
def realPower (x y : Binary64) : Except Fault Numeral :=
  if x.isZero && y.isNegative && !y.isZero then .error .divisionByZero
  else
    let isRoot := x.isNegative && !x.isZero && x.isFinite && y.isFinite && y.toInt?.isNone
    if isRoot then
      -- a power of the magnitude, turned by as many half circles as the exponent counts
      let size := Binary64.pow x.neg y
      let angle := Binary64.mul y (.ofBits (0x400921fb54442d18 : UInt64))
      .ok (.complex (size.mul (angle.byMachine Float.cos)) (size.mul (angle.byMachine Float.sin)))
    else
      match Binary64.pow x y with
      | .infinite negative =>
        if x.isFinite && y.isFinite then .error .beyondRange else .ok (.float (.infinite negative))
      | z => .ok (.float z)

/-- A power of whole numbers. -/
def intPower (m n : Int) : Except Fault Numeral :=
  if n < 0 then do
    if m = 0 then throw .divisionByZero
    else realPower (← ofInt m) (← ofInt n)
  else if bitLimit < n.toNat * m.natAbs.log2 then .error tooLarge
  else if m = 1 || n = 0 then .ok (.int 1)
  else if m = -1 then .ok (.int (if n % 2 = 0 then 1 else -1))
  else if m = 0 then .ok (.int 0)
  else .ok (.int (Int.pow m n.toNat))

/-- A product of complex numbers. -/
def complexProduct (a b : Binary64 × Binary64) : Binary64 × Binary64 :=
  ((a.1.mul b.1).sub (a.2.mul b.2), (a.1.mul b.2).add (a.2.mul b.1))

/-- A quotient of complex numbers. -/
def complexQuotient (a b : Binary64 × Binary64) : Except Fault (Binary64 × Binary64) :=
  let size (x : Binary64) : Binary64 := if x.isNegative then x.neg else x
  if b.1.isZero && b.2.isZero then .error .divisionByZero
  else if !(size b.1).isBelow (size b.2) then
    let ratio := b.2.div b.1
    let scale := b.1.add (b.2.mul ratio)
    .ok ((a.1.add (a.2.mul ratio)).div scale, (a.2.sub (a.1.mul ratio)).div scale)
  else
    let ratio := b.1.div b.2
    let scale := (b.1.mul ratio).add b.2
    .ok (((a.1.mul ratio).add a.2).div scale, ((a.2.mul ratio).sub a.1).div scale)

/-- A power of complex numbers. -/
def complexPower (a b : Binary64 × Binary64) : Except Fault (Binary64 × Binary64) :=
  let whole? := if b.2.isZero then b.1.toInt? else none
  match whole? with
  | some n =>
    if n.natAbs ≤ 100 then
      let product := (List.replicate n.natAbs a).foldl complexProduct (.ofInt 1, .zero)
      if n < 0 then complexQuotient (.ofInt 1, .zero) product else .ok product
    else general
  | none => general
where
  /-- A power by magnitude and angle. -/
  general : Except Fault (Binary64 × Binary64) :=
    if a.1.isZero && a.2.isZero then
      if b.1.isNegative || !b.2.isZero then .error .divisionByZero else .ok (.zero, .zero)
    else
      let float (x : Binary64) : Float := .ofBits x.toBits
      let size := Float.sqrt (float a.1 * float a.1 + float a.2 * float a.2)
      let angle := Float.atan2 (float a.2) (float a.1)
      let length := Float.pow size (float b.1) * Float.exp (-(angle * float b.2))
      let turn := angle * float b.1 + float b.2 * Float.log size
      .ok (.ofBits (length * Float.cos turn).toBits, .ofBits (length * Float.sin turn).toBits)

/-! ## Arithmetic -/

/-- What an operator makes of two whole numbers. -/
def ofInts (operator : String) (m n : Int) : Except Fault (Option Numeral) :=
  match operator with
  | "+" => .ok (some (.int (m + n)))
  | "-" => .ok (some (.int (m - n)))
  | "*" =>
    if bitLimit < m.natAbs.log2 + n.natAbs.log2 then .error tooLarge else .ok (some (.int (m * n)))
  | "/" =>
    if n = 0 then .error .divisionByZero
    else
      match Binary64.ofRatio ((m < 0) != (n < 0)) m.natAbs n.natAbs with
      | .infinite _ => .error .beyondRange
      | x => .ok (some (.float (if m = 0 then Binary64.ofRank (n < 0) 0 else x)))
  | "//" => if n = 0 then .error .divisionByZero else .ok (some (.int (m.fdiv n)))
  | "%" => if n = 0 then .error .divisionByZero else .ok (some (.int (m.fmod n)))
  | "**" => (intPower m n).map some
  | "&" => .ok (some (.int (Bits.both m n)))
  | "|" => .ok (some (.int (Bits.either m n)))
  | "^" => .ok (some (.int (Bits.oneOf m n)))
  | "<<" =>
    if n < 0 then .error (.badValue "negative shift count")
    else if m = 0 then .ok (some (.int 0))
    else if (bitLimit : Int) < n then .error tooLarge
    else .ok (some (.int (m * Int.ofNat (Nat.pow 2 n.toNat))))
  | ">>" =>
    if n < 0 then .error (.badValue "negative shift count")
    else if (m.natAbs.log2 + 1 : Int) < n then .ok (some (.int (if m < 0 then -1 else 0)))
    else .ok (some (.int (m.fdiv (Int.ofNat (Nat.pow 2 n.toNat)))))
  | _ => .ok none

/-- What an operator makes of two real numbers. -/
def ofReals (operator : String) (x y : Binary64) : Except Fault (Option Numeral) :=
  match operator with
  | "+" => .ok (some (.float (x.add y)))
  | "-" => .ok (some (.float (x.sub y)))
  | "*" => .ok (some (.float (x.mul y)))
  | "/" => if y.isZero then .error .divisionByZero else .ok (some (.float (x.div y)))
  | "//" => if y.isZero then .error .divisionByZero else .ok (some (.float (x.floorDiv y).1))
  | "%" => if y.isZero then .error .divisionByZero else .ok (some (.float (x.floorDiv y).2))
  | "**" => (realPower x y).map some
  | _ => .ok none

/-- What an operator makes of two complex numbers. -/
def ofComplex (operator : String) (a b : Binary64 × Binary64) : Except Fault (Option Numeral) :=
  let made (c : Binary64 × Binary64) : Option Numeral := some (.complex c.1 c.2)
  match operator with
  | "+" => .ok (made (a.1.add b.1, a.2.add b.2))
  | "-" => .ok (made (a.1.sub b.1, a.2.sub b.2))
  | "*" => .ok (made (complexProduct a b))
  | "/" => (complexQuotient a b).map made
  | "**" => (complexPower a b).map made
  | _ => .ok none

/-- What an operator makes of two numbers, if anything. -/
def combine (operator : String) (a b : Numeral) : Except Fault (Option Numeral) := do
  match a, b with
  | .int m, .int n => ofInts operator m n
  | .complex .., _ | _, .complex .. => ofComplex operator (← a.parts) (← b.parts)
  | a, b =>
    if ["+", "-", "*", "/", "//", "%", "**"].contains operator then
      ofReals operator (← a.real) (← b.real)
    else return none

/-- What an operator makes of two values that are numbers; the bits of truth values give such a
value again. -/
def ofValues (operator : String) (left right : Value) : Except Fault (Option Value) := do
  match left, right with
  | .bool a, .bool b =>
    match operator with
    | "&" => return some (.bool (a && b))
    | "|" => return some (.bool (a || b))
    | "^" => return some (.bool (a != b))
    | _ => combined
  | _, _ => combined
where
  /-- The outcome for numbers. -/
  combined : Except Fault (Option Value) := do
    match of? left, of? right with
    | some a, some b => return (← combine operator a b).map toValue
    | _, _ => return none

/-- What a sign makes of a number. -/
def signed (operator : String) (a : Numeral) : Option Numeral :=
  match operator, a with
  | "-", .int n => some (.int (-n))
  | "-", .float x => some (.float x.neg)
  | "-", .complex x y => some (.complex x.neg y.neg)
  | "+", a => some a
  | "~", .int n => some (.int (Bits.complement n))
  | _, _ => none

/-- The magnitude of a number. -/
def magnitude : Numeral → Except Fault Numeral
  | .int n => .ok (.int n.natAbs)
  | .float x => .ok (.float (if x.isNegative then x.neg else x))
  | .complex x y =>
    match x, y with
    | .infinite _, _ | _, .infinite _ => .ok (.float (.infinite false))
    | x, y =>
      match ((x.mul x).add (y.mul y)).byMachine Float.sqrt with
      | .infinite _ => .error .beyondRange
      | size => .ok (.float size)

/-! ## Rounding -/

/-- A quotient as a whole number: the nearest one, and of two the even one. -/
def nearest (num : Int) (den : Nat) : Int :=
  let below := num.fdiv den
  let rest := (num.fmod den) * 2
  if rest < den || (rest = den && below % 2 = 0) then below else below + 1

/-- A whole number to a number of places; a negative number of them counts from the point to the
left. -/
def roundInt (n : Int) (places : Int) : Int :=
  if 0 ≤ places then n
  else if (n.natAbs.log2 + 2 : Int) < -places then 0
  else
    let unit := Nat.pow 10 (-places).toNat
    nearest n unit * unit

/-- A real number to a number of places after the point. -/
def roundReal (x : Binary64) (places : Int) : Except Fault Binary64 :=
  match x.toRatio? with
  | none => .ok x
  | some (p, q) =>
    if places > 400 then .ok x
    else if places < -400 then .ok (Binary64.ofRank x.isNegative 0)
    else
      let (num, den) := shifted 10 p.natAbs q places
      let digits := (nearest num den).natAbs
      match Binary64.ofDecimal x.isNegative digits (-places) with
      | .infinite _ => .error .beyondRange
      | y => .ok y

/-- The whole number that is left when the places after the point are cut off. -/
def truncated (x : Binary64) : Except Fault Int :=
  match x with
  | .nan => .error (.badValue "cannot convert float NaN to integer")
  | .infinite _ => .error .beyondRange
  | x => .ok (x.truncate?.getD 0)

/-- The whole number nearest to a real one. -/
def rounded (x : Binary64) : Except Fault Int :=
  match x.toRatio? with
  | some (p, q) => .ok (nearest p q)
  | none => (truncated x)

end Numeral

end TypeHint

end CallPlan
