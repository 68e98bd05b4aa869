/-!
# CallPlan.Text.Punycode

The spelling of any text in ASCII letters, digits and hyphens that host names use.

The ASCII characters come first, and a hyphen if there are any. The other characters follow in the
order of their code points, each as the number of steps from the one before it, where a step goes to
the next place in the text, or from the last place to the first one with the next code point.
Numbers have a variable length: their digits are worth 36 at most, and a digit below a threshold is
the last. The thresholds follow the sizes of the numbers before.
-/

namespace CallPlan

namespace Text

namespace Punycode

/-- A digit: a letter, or a decimal digit from 26 on. -/
def digit (n : Nat) : Char := Char.ofNat (if n < 26 then n + 97 else n + 22)

/-- The threshold at a place, counted in steps of 36, under a bias. -/
def threshold (place bias : Nat) : Nat := max 1 (min 26 (place - bias))

/-- A number from a place on. -/
def number (bias place n : Nat) : List Char :=
  let limit := threshold place bias
  if h : n < limit then [digit n]
  else digit (limit + (n - limit) % (36 - limit)) ::
    number bias (place + 36) ((n - limit) / (36 - limit))
termination_by n
decreasing_by
  have positive : 1 ≤ threshold place bias := Nat.le_max_left ..
  have shrinks := Nat.div_le_self (n - threshold place bias) (36 - threshold place bias)
  omega

/-- The bias that follows from a number that has been brought into the usual range, after
`place`. -/
def biasOf (place n : Nat) : Nat :=
  if 455 < n then biasOf (place + 36) (n / 35) else place + 36 * n / (n + 38)
termination_by n
decreasing_by exact Nat.div_lt_self (by omega) (by omega)

/-- The bias after a number of steps, where `count` characters have been written; the first number
weighs less. -/
def nextBias (first : Bool) (steps count : Nat) : Nat :=
  let scaled := if first then steps / 700 else steps / 2
  biasOf 0 (scaled + scaled / count)

/-- A text that is being written. -/
structure State where
  written : List Char
  /-- The steps since the last character. -/
  steps : Nat
  bias : Nat
  count : Nat

/-- Passes one place of the text on the round for a code point. -/
def pass (basic code : Nat) (s : State) (c : Char) : State :=
  if c.toNat < code then { s with steps := s.steps + 1 }
  else if c.toNat = code then
    { written := s.written ++ number s.bias 36 s.steps
      steps := 0
      bias := nextBias (s.count = basic) s.steps (s.count + 1)
      count := s.count + 1 }
  else s

/-- The rounds for some code points, the first of them after `below`. -/
def rounds (cs : List Char) (basic below : Nat) (s : State) : List Nat → State
  | [] => s
  | code :: rest =>
    let start := { s with steps := s.steps + (code - below) * (s.count + 1) }
    let done := cs.foldl (pass basic code) start
    rounds cs basic (code + 1) { done with steps := done.steps + 1 } rest

/-- The spelling of a text in ASCII. -/
def encode (cs : List Char) : List Char :=
  let basic := cs.filter (·.toNat < 0x80)
  let others := ((cs.filter (0x80 ≤ ·.toNat)).map Char.toNat).mergeSort.eraseDups
  let start : State :=
    ⟨if basic.isEmpty then [] else basic ++ ['-'], 0, 72, basic.length⟩
  (rounds cs basic.length 0x80 start others).written

/-! ## Reading -/

/-- The value of a digit; case does not matter. -/
def digitValue? (c : Char) : Option Nat :=
  if 'a' ≤ c && c ≤ 'z' then some (c.toNat - 97)
  else if 'A' ≤ c && c ≤ 'Z' then some (c.toNat - 65)
  else if '0' ≤ c && c ≤ '9' then some (c.toNat - 22)
  else none

/-- The number at the start of a text, and what follows it; the digits before it amount to `sum`,
and the next one counts `weight` times. -/
def readNumber (bias place weight sum : Nat) : List Char → Option (Nat × List Char)
  | [] => none
  | c :: rest => do
    let value ← digitValue? c
    let limit := threshold place bias
    let sum := sum + value * weight
    if value < limit then return (sum, rest)
    else readNumber bias (place + 36) (weight * (36 - limit)) sum rest

/-- A text whose characters beyond ASCII are being put in their places. -/
structure Reading where
  found : List Nat
  code : Nat
  place : Nat
  bias : Nat

/-- Puts characters in their places until no number is left; each number takes one digit at
least. -/
def readFrom (first : Bool) (r : Reading) : (fuel : Nat) → List Char → Option (List Nat)
  | _, [] => some r.found
  | 0, _ => none
  | fuel + 1, cs => do
    let (steps, rest) ← readNumber r.bias 36 1 0 cs
    let count := r.found.length + 1
    let code := r.code + (r.place + steps) / count
    guard (code ≤ 0x10ffff)
    let place := (r.place + steps) % count
    let found := r.found.take place ++ code :: r.found.drop place
    readFrom false ⟨found, code, place + 1, nextBias first steps count⟩ fuel rest

/-- The code points of the text that a spelling in ASCII stands for. -/
def decode? (cs : List Char) : Option (List Nat) :=
  let tail := (cs.reverse.takeWhile (· ≠ '-')).reverse
  let basic := (cs.take (cs.length - tail.length)).dropLast
  readFrom true ⟨basic.map Char.toNat, 0x80, 0, 72⟩ tail.length tail

end Punycode

end Text

end CallPlan
