import CallPlan.Number.Binary64

/-!
# CallPlan.Number.Text

Double-precision numbers as they are written: digits with a point and an exponent, or a word for
infinity or for no number at all.
-/

namespace CallPlan

namespace Text

/-- A small ASCII letter for a capital one. -/
def asciiLower (c : Char) : Char :=
  if 'A' ≤ c && c ≤ 'Z' then Char.ofNat (c.toNat + 32) else c

/-- Whether a character is an ASCII decimal digit. -/
def isAsciiDigit (c : Char) : Bool := '0' ≤ c && c ≤ '9'

end Text

namespace Binary64

/-- The power of ten that an exponent names; an absent exponent is zero. -/
def exponent? : List Char → Option Int
  | [] => some 0
  | e :: rest =>
    let (sign, power) : Int × List Char := match rest with
      | '-' :: rest => (-1, rest)
      | '+' :: rest => (1, rest)
      | _ => (1, rest)
    if (e = 'e' || e = 'E') && !power.isEmpty && power.all Text.isAsciiDigit then
      some (sign * Nat.ofDigitChars 10 power 0)
    else none

/-- The double-precision number that a text without blanks and underscores denotes. -/
def ofChars? (cs : List Char) : Option Binary64 :=
  let (negative, body) := match cs with
    | '-' :: rest => (true, rest)
    | '+' :: rest => (false, rest)
    | _ => (false, cs)
  let word := String.ofList (body.map Text.asciiLower)
  if word = "nan" then some .nan
  else if word = "inf" || word = "infinity" then some (.infinite negative)
  else
    let whole := body.takeWhile Text.isAsciiDigit
    let (fraction, tail) := match body.drop whole.length with
      | '.' :: rest => (rest.takeWhile Text.isAsciiDigit, rest.dropWhile Text.isAsciiDigit)
      | rest => ([], rest)
    if whole.isEmpty && fraction.isEmpty then none
    else
      let digits := Nat.ofDigitChars 10 (whole ++ fraction) 0
      (exponent? tail).map fun power => .ofDecimal negative digits (power - fraction.length)

end Binary64

end CallPlan
