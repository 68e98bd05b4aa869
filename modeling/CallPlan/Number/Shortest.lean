import CallPlan.Number.Binary64

/-!
# CallPlan.Number.Shortest

Decimal text of double-precision numbers.

* `Decimal.shortest` chooses digits: the fewest that read back as the number, and among those the
  nearest to it. Each grid of `n` significant digits is tried at the two points around the number,
  for `n = 1, 2, …, 17`; seventeen digits always suffice.
* `DecimalLayout` holds the decisions of one written form: where positional notation ends, how an
  exponent is spelled, and the texts of the special values. `DecimalLayout.text` applies them.
-/

namespace CallPlan

/-- Decimal digits `d₁ … dₙ` that stand for `0.d₁ … dₙ * 10 ^ point`. -/
structure Decimal where
  digits : List Char
  point : Int
  deriving DecidableEq

namespace Decimal

/-- The place of the decimal point of a positive quotient: it lies between `10 ^ (p - 1)` and
`10 ^ p`. -/
private def pointOf (num den : Nat) : Int :=
  let guess : Int := ((Nat.toDigits 10 num).length : Int) - (Nat.toDigits 10 den).length
  let middle := shifted 10 num den (-guess)
  if middle.1 < middle.2 then guess else guess + 1

/-- The whole number `digits * 10 ^ power` written as a decimal, without zeros at its end. -/
private def ofNatPower (digits : Nat) (power : Int) : Decimal :=
  let text := Nat.toDigits 10 digits
  ⟨(text.reverse.dropWhile (· = '0')).reverse, text.length + power⟩

/-- The point nearest to the magnitude, on the grid of `n` significant digits, among those that
read back as it; `none` if neither neighbour on the grid does. -/
private def onGrid (rank num den : Nat) (point : Int) (n : Nat) : Option Decimal :=
  let power := point - n
  let scaled := shifted 10 num den (-power)
  let low := scaled.1 / scaled.2
  let rest := scaled.1 % scaled.2
  let target := Binary64.ofRank false rank
  let lowReads := decide (Binary64.ofDecimal false low power = target)
  let highReads := decide (Binary64.ofDecimal false (low + 1) power = target)
  let highNearer := rest * 2 > scaled.2 || (rest * 2 = scaled.2 && low % 2 = 1)
  if lowReads && !(highReads && highNearer) then some (ofNatPower low power)
  else if highReads then some (ofNatPower (low + 1) power)
  else none

/-- The shortest digits that read back as the finite magnitude of this rank, and among those the
nearest to it. -/
def shortest (rank : Nat) : Decimal :=
  if rank = 0 then ⟨['0'], 1⟩
  else
    let (num, den) := Binary64.magnitude rank
    let point := pointOf num den
    (((List.range 17).map (· + 1)).findSome? (onGrid rank num den point)).getD
      (ofNatPower (num / den) 0)

end Decimal

/-- The decisions of one written form of numbers. -/
structure DecimalLayout where
  /-- Positional notation needs a decimal point above this place. -/
  above : Int
  /-- Positional notation needs a decimal point at most at this place. -/
  upTo : Int
  /-- Whether a positive exponent carries its sign. -/
  plusSign : Bool
  /-- The least number of digits of an exponent. -/
  exponentWidth : Nat
  /-- The texts of not-a-number, and of infinity without its sign. -/
  nan : String
  infinity : String
  /-- Whether infinity carries a sign. -/
  signedInfinity : Bool := true

namespace DecimalLayout

/-- A decimal without its sign. -/
def decimal (layout : DecimalLayout) (d : Decimal) : List Char :=
  let count : Int := d.digits.length
  if layout.above < d.point ∧ d.point ≤ layout.upTo then
    if d.point ≤ 0 then
      '0' :: '.' :: (List.replicate (-d.point).toNat '0' ++ d.digits)
    else if count ≤ d.point then
      d.digits ++ List.replicate (d.point - count).toNat '0' ++ ['.', '0']
    else
      d.digits.take d.point.toNat ++ '.' :: d.digits.drop d.point.toNat
  else
    let power := d.point - 1
    let exponentDigits := Nat.toDigits 10 power.natAbs
    let sign := if power < 0 then ['-'] else if layout.plusSign then ['+'] else []
    d.digits.take 1 ++ (if count ≤ 1 then [] else '.' :: d.digits.drop 1) ++ 'e' :: sign ++
      List.replicate (layout.exponentWidth - exponentDigits.length) '0' ++ exponentDigits

/-- A number in this layout. -/
def text (layout : DecimalLayout) : Binary64 → List Char
  | .nan => layout.nan.toList
  | .infinite negative =>
    (if negative && layout.signedInfinity then ['-'] else []) ++ layout.infinity.toList
  | .finite negative rank =>
    (if negative then ['-'] else []) ++ layout.decimal (Decimal.shortest rank)

/-- Numbers in JSON text: positional from `0.0001` below `1e16`, a signed exponent of at least two
digits otherwise, and the bare words for what is not finite. -/
def json : DecimalLayout where
  above := -4
  upTo := 16
  plusSign := true
  exponentWidth := 2
  nan := "NaN"
  infinity := "Infinity"

/-- Numbers inside messages: as in JSON text, with lower-case words for what is not finite. -/
def message : DecimalLayout := { json with nan := "nan", infinity := "inf" }

/-- Numbers in compact documents: positional from `0.00001` below `1e16`, and a signed exponent
otherwise. What is not finite has no number and is written as a null. -/
def compact : DecimalLayout where
  above := -5
  upTo := 16
  plusSign := true
  exponentWidth := 1
  nan := "null"
  infinity := "null"
  signedInfinity := false

end DecimalLayout

end CallPlan
