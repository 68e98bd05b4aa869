import CallPlan.Text.Blank

/-!
# CallPlan.Text.Digit

Decimal digits of every script, and how many of them are converted.

* The characters of the general category "decimal number" come in runs of ten, one for each of the
  values 0 to 9, so the table lists the zero of each run.
* A whole number with more than `Text.digitLimit` digits is neither read from a text nor written as
  one: `LongNumber` is the refusal to write it.
-/

namespace CallPlan

namespace Text

/-- The zero of each run of ten decimal digits, in increasing order. -/
def digitZeros : List Nat :=
  [0x30, 0x660, 0x6f0, 0x7c0, 0x966, 0x9e6, 0xa66, 0xae6, 0xb66, 0xbe6, 0xc66, 0xce6, 0xd66,
   0xde6, 0xe50, 0xed0, 0xf20, 0x1040, 0x1090, 0x17e0, 0x1810, 0x1946, 0x19d0, 0x1a80, 0x1a90,
   0x1b50, 0x1bb0, 0x1c40, 0x1c50, 0xa620, 0xa8d0, 0xa900, 0xa9d0, 0xa9f0, 0xaa50, 0xabf0,
   0xff10, 0x104a0, 0x10d30, 0x11066, 0x110f0, 0x11136, 0x111d0, 0x112f0, 0x11450, 0x114d0,
   0x11650, 0x116c0, 0x11730, 0x118e0, 0x11950, 0x11c50, 0x11d50, 0x11da0, 0x16a60, 0x16ac0,
   0x16b50, 0x1d7ce, 0x1d7d8, 0x1d7e2, 0x1d7ec, 0x1d7f6, 0x1e140, 0x1e2f0, 0x1e950, 0x1fbf0]

/-- The value of a decimal digit of any script. -/
def digitValue? (c : Char) : Option Nat :=
  (digitZeros.find? fun start => start ≤ c.toNat && c.toNat < start + 10).map (c.toNat - ·)

/-- Whether a character is a decimal digit of some script. -/
def isDigit (c : Char) : Bool := (digitValue? c).isSome

/-- The number that a run of decimal digits denotes; other characters count as zero. -/
def digitsValue (cs : List Char) : Nat :=
  cs.foldl (fun acc c => acc * 10 + (digitValue? c).getD 0) 0

/-- The parts of a text between single underscores, if there are digits on both sides of each. -/
def digitGroups? (cs : List Char) : Option (List (List Char)) :=
  let parts := cs.splitOnP (· = '_')
  if parts.all fun part => !part.isEmpty && part.all isDigit then some parts else none

/-- The most digits of a whole number that are converted. -/
def digitLimit : Nat := 4300

/-- The refusal of a text with too many digits for a whole number. -/
def longNumberText (digits : Nat) : String :=
  "Exceeds the limit (" ++ toString digitLimit ++
    " digits) for integer string conversion: value has " ++ toString digits ++
    " digits; use sys.set_int_max_str_digits() to increase the limit"

/-- The whole number that a text denotes: decimal digits of any script with single underscores
between them, after a sign or without one, and with blanks around them. -/
def wholeNumber? (cs : List Char) : Option Int := do
  let (negative, cs) := match trimBy isBlank cs with
    | '-' :: rest => (true, rest)
    | '+' :: rest => (false, rest)
    | cs => (false, cs)
  let digits := (← digitGroups? cs).flatten
  guard (digits.length ≤ digitLimit)
  let value : Int := digitsValue digits
  return if negative then -value else value

/-- Whether a whole number has no more digits than are converted. -/
def isShortNumber (n : Int) : Bool := decide ((Nat.toDigits 10 n.natAbs).length ≤ digitLimit)

end Text

/-- A whole number has too many digits to be written. -/
structure LongNumber where
  deriving DecidableEq, Inhabited

/-- The refusal of a whole number that is to be written. -/
def LongNumber.message (_ : LongNumber) : String :=
  "Exceeds the limit (" ++ toString Text.digitLimit ++
    " digits) for integer string conversion; use sys.set_int_max_str_digits() to increase the limit"

end CallPlan
