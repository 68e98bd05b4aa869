import CallPlan.Number.Text
import CallPlan.Record.Checked
import CallPlan.Text.Digit
import CallPlan.Time.DateTime

/-!
# CallPlan.Record.Scalar

Checks of fields that hold a truth value, a whole number, a double-precision number or a point in
time. They accept the value itself and the usual other spellings of it: a truth value as `0`, `1` or
a word, a number as text, a point in time as text or as a count of seconds.
-/

namespace CallPlan

namespace Record

/-! ## Truth values -/

/-- The truth value that a word stands for, in capitals or not. -/
def boolWord? (s : String) : Option Bool :=
  let word := s.map Text.asciiLower
  if ["0", "f", "n", "no", "off", "false"].contains word then some false
  else if ["1", "t", "y", "on", "yes", "true"].contains word then some true
  else none

/-- The first magnitude that does not fit into 64 bits with a sign: two to the power 63. -/
def wordLimit : Nat := Nat.pow 2 63

/-- Whether an integer fits into 64 bits with a sign. -/
def isWord64 (n : Int) : Bool := -(wordLimit : Int) ≤ n && n < (wordLimit : Int)

/-- A truth value written as a number. -/
def boolOfInt (n : Int) : Checked Bool :=
  if n = 0 then .ok false else if n = 1 then .ok true else .issue .boolParsing

/-- A truth value, `0` or `1`, or a word for one. Numbers that do not fit into 64 bits are not even
tried. -/
def bool : Json → Checked Bool
  | .bool b => .ok b
  | .num (.int n) => if isWord64 n then boolOfInt n else .issue .boolType
  | .num (.float x) =>
    match x.toInt? with
    | some n => if n.natAbs < wordLimit then boolOfInt n else .issue .boolType
    | none => .issue .boolType
  | .str s => match boolWord? s with
    | some b => .ok b
    | none => .issue .boolParsing
  | _ => .issue .boolType

/-! ## Numbers in text -/

/-- A text without single underscores between its characters. -/
def dropUnderscores? (cs : List Char) : Option (List Char) :=
  let parts := cs.splitOnP (· = '_')
  if parts.any List.isEmpty then none else some parts.flatten

/-- A number without the zeros before its first other digit; underscores among those zeros go with
them, and a minus may end them. `none` if the text does not start like a number. -/
def dropLeadingZeros? (cs : List Char) : Option (List Char) :=
  match cs with
  | [] => none
  | c :: rest =>
    if c ≠ '0' then (if ('1' ≤ c && c ≤ '9') || c = '-' then some cs else none)
    else
      let zeros := rest.takeWhile fun d => d = '0' || d = '_'
      let last := zeros.getLast?.getD '0'
      match rest.drop zeros.length with
      | [] => some [last]
      | d :: tail =>
        if ('1' ≤ d && d ≤ '9') || d = '-' then some (d :: tail)
        else if d = '.' then some (last :: d :: tail)
        else none

/-- A number without a point and the zeros after it. -/
def dropZeroFraction (cs : List Char) : List Char :=
  let head := cs.takeWhile (· ≠ '.')
  match cs.drop head.length with
  | _ :: tail => if !tail.isEmpty && tail.all (· = '0') then head else cs
  | [] => cs

/-- A minus, if there is one, and the rest. -/
def splitMinus : List Char → List Char × List Char
  | '-' :: rest => (['-'], rest)
  | cs => ([], cs)

/-- A whole number without what may be written in it for the reader: blanks around it, a plus, zeros
before and after it, and underscores. A minus stands before all of that. -/
def bareInteger? (cs : List Char) : Option (List Char) := do
  let cs ← match Text.trimBy Text.isWhiteSpace cs with
    | '+' :: '-' :: _ => none
    | '+' :: rest => some rest
    | cs => some cs
  let (minus, digits) := splitMinus cs
  let digits := dropZeroFraction (← dropLeadingZeros? digits)
  return minus ++ (dropUnderscores? digits).getD digits

/-- The digits of the whole number at the start of a text, behind its sign; no needless zero stands
among them. -/
def leadingDigits (cs : List Char) : List Char :=
  let digits := (splitMinus cs).2
  if digits.head? = some '0' then ['0'] else digits.takeWhile Text.isAsciiDigit

/-- The whole number that a text is. -/
def plainInteger? (cs : List Char) : Option Int :=
  let (minus, digits) := splitMinus cs
  if digits.isEmpty || leadingDigits cs ≠ digits || Text.digitLimit < digits.length then none
  else
    let value : Int := Nat.ofDigitChars 10 digits 0
    some (if minus.isEmpty then value else -value)

/-- Why a text is not a whole number, or the number it is. One that starts with too many digits is
too long, whatever follows them. -/
def intText (s : String) : Checked Int :=
  let cs := s.toList
  if Text.digitLimit < (leadingDigits cs).length then .issue .intParsingSize
  else
    match plainInteger? cs, (bareInteger? cs).bind plainInteger? with
    | some value, _ | none, some value => .ok value
    | none, none => .issue .intParsing

/-- A whole number: itself, a truth value, a double-precision number without a fraction, or the text
of one. -/
def int : Json → Checked Int
  | .num (.int n) => .ok n
  | .bool b => .ok (if b then 1 else 0)
  | .num (.float x) =>
    if x.isFinite then
      match x.toInt? with
      | some n => if n.natAbs < wordLimit then .ok n else .issue .intParsingSize
      | none => .issue .intFromFloat
    else .issue .finiteNumber
  | .str s => intText s
  | _ => .issue .intType

/-- The double-precision number that a text denotes. Blanks may surround it, or single underscores
stand inside it, but not both. -/
def floatText (s : String) : Checked Binary64 :=
  match Binary64.ofChars? (Text.trimBy Text.isWhiteSpace s.toList) with
  | some x => .ok x
  | none =>
    match (dropUnderscores? s.toList).bind Binary64.ofChars? with
    | some x => .ok x
    | none => .issue .floatParsing

/-! ## Points in time -/

/-- A point in time from the year 1 on. -/
def commonEra (t : DateTime) : Checked DateTime :=
  if t.isCommonEra then .ok t else .issue .datetimeParsing

/-- A point in time: a calendar text, or a count of seconds as a number or as text. A whole number
of any size counts as a double-precision one where it does not come from a text. -/
def dateTime (origin : Origin) (value : Json) : Checked DateTime :=
  let era (found : Option DateTime) (otherwise : IssueKind) : Checked DateTime :=
    match found with
    | some t => commonEra t
    | none => .issue otherwise
  match value with
  | .str s => era (DateTime.ofText? s) .datetimeFromDateParsing
  | .num (.int n) =>
    if isWord64 n then era (DateTime.ofSeconds? n) .datetimeParsing
    else if origin = .value && (Binary64.ofInt n).isFinite then .issue .datetimeParsing
    else .issue .datetimeType
  | .num (.float x) => era (DateTime.ofFloatSeconds? x) .datetimeParsing
  | _ => .issue .datetimeType

end Record

end CallPlan
