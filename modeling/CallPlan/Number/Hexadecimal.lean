import CallPlan.Number.Text

/-!
# CallPlan.Number.Hexadecimal

Double-precision numbers in hexadecimal digits: exactly, with a binary exponent after a `p`.
-/

namespace CallPlan

namespace Binary64

/-- A number in hexadecimal digits: one digit before the point, and thirteen behind it. -/
def hexText : Binary64 → String
  | .nan => "nan"
  | .infinite negative => if negative then "-inf" else "inf"
  | .finite negative rank =>
    let sign := if negative then "-" else ""
    let digits := Nat.toDigits 16 (rank.val % span)
    let places := String.ofList (List.replicate (13 - digits.length) '0' ++ digits)
    let power := rank.val / span
    if rank.val = 0 then sign ++ "0x0.0p+0"
    else if power = 0 then sign ++ "0x0." ++ places ++ "p-1022"
    else
      sign ++ "0x1." ++ places ++ "p" ++
        (if power < 1023 then "-" ++ toString (1023 - power) else "+" ++ toString (power - 1023))

/-- The value of a hexadecimal digit. -/
def hexDigit? (c : Char) : Option Nat :=
  if '0' ≤ c && c ≤ '9' then some (c.toNat - 48)
  else if 'a' ≤ c && c ≤ 'f' then some (c.toNat - 87)
  else none

/-- The power of two that an exponent names; an absent exponent is zero. -/
def binaryExponent? : List Char → Option Int
  | [] => some 0
  | 'p' :: rest =>
    let (sign, power) : Int × List Char := match rest with
      | '-' :: rest => (-1, rest)
      | '+' :: rest => (1, rest)
      | _ => (1, rest)
    if !power.isEmpty && power.all Text.isAsciiDigit then
      some (sign * Nat.ofDigitChars 10 power 0)
    else none
  | _ => none

/-- The number that hexadecimal digits and a power of two amount to. -/
def ofBinary (negative : Bool) (digits : Nat) (power : Int) : Binary64 :=
  let size : Int := digits.log2 + power
  if digits = 0 || size < -1100 then (if negative then zero.neg else zero)
  else if 1100 < size then .infinite negative
  else if 0 ≤ power then ofRatio negative (digits * Nat.pow 2 power.toNat) 1
  else ofRatio negative digits (Nat.pow 2 (-power).toNat)

/-- The number that a text without blanks denotes in hexadecimal digits. -/
def ofHex? (cs : List Char) : Option Binary64 :=
  let (negative, body) := match cs.map Text.asciiLower with
    | '-' :: rest => (true, rest)
    | '+' :: rest => (false, rest)
    | body => (false, body)
  let word := String.ofList body
  if word = "nan" then some .nan
  else if word = "inf" || word = "infinity" then some (.infinite negative)
  else
    let body := match body with
      | '0' :: 'x' :: rest => rest
      | body => body
    let isDigit (c : Char) : Bool := (hexDigit? c).isSome
    let whole := body.takeWhile isDigit
    let (fraction, tail) := match body.drop whole.length with
      | '.' :: rest => (rest.takeWhile isDigit, rest.dropWhile isDigit)
      | rest => ([], rest)
    if whole.isEmpty && fraction.isEmpty then none
    else
      let digits := (whole ++ fraction).foldl (fun n c => n * 16 + (hexDigit? c).getD 0) 0
      (binaryExponent? tail).map fun power => ofBinary negative digits (power - 4 * fraction.length)

end Binary64

end CallPlan
