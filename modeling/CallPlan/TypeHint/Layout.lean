import CallPlan.Number.Shortest
import CallPlan.Text.Digit
import CallPlan.TypeHint.Numeric
import CallPlan.TypeHint.Quoted
import CallPlan.TypeHint.Shown

/-!
# CallPlan.TypeHint.Layout

How a layout lays out a value in a text.

* A layout says in this order with what to fill up and on which side, which signs to write, the
  width, what groups digits, the precision, and in which form the value is written (`read`).
* Numbers that are not whole are written in places after the point (`fixed`) or with an exponent
  (`scientific`), rounded from the exact value.
-/

namespace CallPlan

namespace TypeHint

/-- How a value is laid out; texts are code points. -/
structure Layout where
  fill : Option Nat := none
  align : Option Char := none
  sign : Option Char := none
  noNegativeZero : Bool := false
  isAlternate : Bool := false
  width : Nat := 0
  grouping : Option Char := none
  precision : Option Nat := none
  form : Option Nat := none
  deriving Inhabited

namespace Layout

/-! ## Reading layouts -/

/-- Whether a code point is a certain character. -/
def isChar (n : Nat) (c : Char) : Bool := n = c.toNat

/-- The side that a code point asks to align to. -/
def side? (n : Nat) : Option Char := ['<', '>', '=', '^'].find? (isChar n)

/-- The largest number in a layout. -/
def numberLimit : Nat := 9223372036854775807

/-- The number at the start of code points, if there is one, and what follows it. -/
def number (ns : List Nat) : Except Fault (Option Nat × List Nat) :=
  let digit? (n : Nat) : Option Nat := Text.digitValue? (Char.ofNat n)
  let digits := ns.takeWhile fun n => (digit? n).isSome
  let value := digits.foldl (fun n d => n * 10 + (digit? d).getD 0) 0
  if digits.isEmpty then .ok (none, ns)
  else if numberLimit < value then
    .error (.badValue "Too many decimal digits in format string")
  else .ok (some value, ns.drop digits.length)

/-- A code point as messages write it. -/
def named (n : Nat) : String :=
  if 0x20 < n && n < 0x80 then (Char.ofNat n).toString
  else "\\x" ++ String.ofList (Nat.toDigits 16 n)

/-- What is said about a form that values of a class are not written in. -/
def unknownForm (form : Nat) (class' : String) : Fault :=
  .badValue ("Unknown format code '" ++ named form ++ "' for object of type '" ++ class' ++ "'")

/-- Whether digits may be grouped in a form. -/
def mayGroup (grouping : Char) : Option Nat → Bool
  | none => true
  | some form =>
    "defgEG%F".toList.any (isChar form) || (grouping = '_' && "boxX".toList.any (isChar form))

/-- A mark of grouping at the start of code points. -/
def groupingMark (ns : List Nat) : Except Fault (Option Char × List Nat) :=
  let both : Fault := .badValue "Cannot specify both ',' and '_'."
  match ns with
  | 0x2c :: 0x5f :: _ | 0x5f :: 0x2c :: _ => .error both
  | 0x2c :: rest => .ok (some ',', rest)
  | 0x5f :: rest => .ok (some '_', rest)
  | ns => .ok (none, ns)

/-- The layout that a text is, for values of a class; `plainForm` is the form that they have if none
is given, and `isRight` says that they stand at the right. -/
def read (text class' : String) (plainForm : Option Char) (isRight : Bool) :
    Except Fault Layout := do
  let ns := Text.points text.toList
  let (fill, align, ns) := match ns with
    | a :: b :: rest =>
      match side? b, side? a with
      | some side, _ => (some a, some side, rest)
      | none, some side => (none, some side, b :: rest)
      | none, none => (none, none, ns)
    | [a] =>
      match side? a with
      | some side => (none, some side, [])
      | none => (none, none, ns)
    | [] => (none, none, [])
  let (sign, ns) := match ns with
    | n :: rest =>
      match [' ', '+', '-'].find? (isChar n) with
      | some sign => (some sign, rest)
      | none => (none, ns)
    | [] => (none, [])
  let (noNegativeZero, ns) := match ns with
    | 0x7a :: rest => (true, rest)
    | ns => (false, ns)
  let (isAlternate, ns) := match ns with
    | 0x23 :: rest => (true, rest)
    | ns => (false, ns)
  let (fill, align, ns) := match fill, ns with
    | none, 0x30 :: rest => (some 0x30, align <|> (if isRight then some '=' else none), rest)
    | fill, ns => (fill, align, ns)
  let (width, ns) ← number ns
  let (grouping, ns) ← groupingMark ns
  let (precision, ns) ← match ns with
    | 0x2e :: rest => do
      match ← number rest with
      | (none, _) => throw (.badValue "Format specifier missing precision")
      | (some n, rest) => pure (some n, rest)
    | ns => pure (none, ns)
  match ns with
  | _ :: _ :: _ =>
    throw (.badValue ("Invalid format specifier '" ++ text ++ "' for object of type '" ++ class' ++
      "'"))
  | ns =>
    let form := ns.head?
    match grouping with
    | some mark =>
      if !mayGroup mark (form <|> plainForm.map Char.toNat) then
        throw (.badValue ("Cannot specify '" ++ mark.toString ++ "' with '" ++
          named (form.getD ((plainForm.map Char.toNat).getD 0)) ++ "'."))
      else pure ()
    | none => pure ()
    return ⟨fill, align, sign, noNegativeZero, isAlternate, width.getD 0, grouping, precision, form⟩

/-! ## Filling up -/

/-- The most characters that a text is filled up to. -/
def widthLimit : Nat := 1000000

/-- A text filled up to the width of a layout. -/
def filled (layout : Layout) (isRight : Bool) (points : List Nat) : Except Fault String :=
  let missing := layout.width - points.length
  if widthLimit < missing then .error ⟨"MemoryError", ""⟩
  else
    let fill := layout.fill.getD 0x20
    let left := match layout.align.getD (if isRight then '>' else '<') with
      | '<' => 0
      | '^' => missing / 2
      | _ => missing
    .ok (Quoted.textOf (List.replicate left fill ++ points ++ List.replicate (missing - left) fill))

/-- Digits in groups with marks between them, filled up with zeros to a least width; `digits` are in
reverse order. A step of fuel for each group. -/
def grouped (mark : Char) (size : Nat) : (fuel : Nat) → (least : Nat) → List Char → List Char
  | 0, _, digits => digits
  | fuel + 1, least, digits =>
    let count := min size (max (max digits.length least) 1)
    let group := digits.take count
    let group := group ++ List.replicate (count - group.length) '0'
    let rest := digits.drop count
    let least := least - count
    if rest.isEmpty && least = 0 then group
    else group ++ mark :: grouped mark size fuel (least - 1) rest

/-- A number laid out: its sign, what stands before its digits, its digits before the point, and
what follows them. -/
def laidOut (layout : Layout) (isNegative : Bool) (lead digits tail : List Char) (groupSize : Nat) :
    Except Fault String :=
  let sign : List Char := if isNegative then ['-']
    else match layout.sign with
      | some '+' => ['+']
      | some ' ' => [' ']
      | _ => []
  let isZeroFilled := layout.fill = some 0x30 && layout.align = some '='
  let around := sign.length + lead.length + tail.length
  if widthLimit < layout.width then .error ⟨"MemoryError", ""⟩
  else
    let digits := match layout.grouping with
      | none => digits
      | some mark =>
        (grouped mark groupSize (digits.length + layout.width + 1)
          (if isZeroFilled then layout.width - around else 0) digits.reverse).reverse
    let whole := sign ++ lead
    let rest := digits ++ tail
    if layout.align = some '=' then
      let missing := layout.width - (whole.length + rest.length)
      let fill := List.replicate missing (layout.fill.getD 0x20)
      .ok (Quoted.textOf (whole.map Char.toNat ++ fill ++ rest.map Char.toNat))
    else filled layout true ((whole ++ rest).map Char.toNat)

/-! ## Numbers that are not whole -/

/-- The digits of a number, at least as many as asked for. -/
def padded (least n : Nat) : List Char :=
  let digits := Nat.toDigits 10 n
  List.replicate (least - digits.length) '0' ++ digits

/-- The magnitude of a number with places after the point: the digits before it and after it. -/
def fixed (num den places : Nat) : List Char × List Char :=
  let (num, den) := shifted 10 num den places
  let digits := padded (places + 1) (Numeral.nearest num den).toNat
  (digits.take (digits.length - places), digits.drop (digits.length - places))

/-- The exponent of the leading digit of a positive number; a step of fuel for each attempt. -/
def leading (num den : Nat) : (fuel : Nat) → (guess : Int) → Int
  | 0, guess => guess
  | fuel + 1, guess =>
    let (p, q) := shifted 10 num den (-guess)
    if p < q then leading num den fuel (guess - 1)
    else if 10 * q ≤ p then leading num den fuel (guess + 1)
    else guess

/-- The magnitude of a number as digits, of which the first one is not zero, and the exponent of the
first one. -/
def scientific (num den places : Nat) : List Char × Int :=
  if num = 0 then (List.replicate (places + 1) '0', 0)
  else
    let guess : Int := ((num.log2 : Int) - den.log2) * 3 / 10
    let e := leading num den 700 guess
    let (p, q) := shifted 10 num den (places - e)
    let digits := Nat.toDigits 10 (Numeral.nearest p q).toNat
    if places + 1 < digits.length then (digits.dropLast, e + 1) else (digits, e)

/-- An exponent as it is written. -/
def exponentText (mark : Char) (e : Int) : List Char :=
  mark :: (if e < 0 then '-' else '+') :: padded 2 e.natAbs

/-- The most places that are written out. -/
def placeLimit : Nat := 100000

/-- What of a number that is not whole stands before the point, and what from it on. -/
def parts (form : Option Char) (precision : Option Nat) (isAlternate : Bool) (x : Binary64) :
    Except Fault (List Char × List Char) :=
  let isUpper := form.any Char.isUpper
  let named (text : String) : List Char := (if isUpper then text.toUpper else text).toList
  let point (digits : List Char) : List Char :=
    if digits.isEmpty && !isAlternate then [] else '.' :: digits
  match x with
  | .nan => .ok (named "nan", [])
  | .infinite _ => .ok (named "inf", [])
  | .finite _ rank =>
    let (num, den) := Binary64.magnitude rank
    let percent := form = some '%'
    let num := if percent then num * 100 else num
    let places := precision.getD 6
    if placeLimit < places then .error (.badValue "precision too big")
    else
      match form with
      | some 'f' | some 'F' | some '%' =>
        let (whole, rest) := fixed num den places
        .ok (whole, point rest ++ (if percent then ['%'] else []))
      | some 'e' | some 'E' =>
        let (digits, e) := scientific num den places
        .ok (digits.take 1, point (digits.drop 1) ++ exponentText (if isUpper then 'E' else 'e') e)
      | form =>
        if form.isNone && precision.isNone then
          let text := DecimalLayout.message.text (if x.isNegative then x.neg else x)
          .ok (text.takeWhile Char.isDigit, text.dropWhile Char.isDigit)
        else
          let places := if places = 0 then 1 else places
          let (digits, e) := scientific num den (places - 1)
          let limit : Int := if form.isNone then places - 1 else places
          let trimmed (digits : List Char) : List Char :=
            if isAlternate then digits else (digits.reverse.dropWhile (· = '0')).reverse
          if e < -4 || limit ≤ e then
            .ok (digits.take 1, point (trimmed (digits.drop 1)) ++
              exponentText (if isUpper then 'E' else 'e') e)
          else
            let (whole, rest) := fixed num den ((places : Int) - 1 - e).toNat
            let rest := trimmed rest
            .ok (whole, point (if form.isNone && rest.isEmpty then ['0'] else rest))

/-- Whether all digits of a number are zero. -/
def isNought (whole rest : List Char) : Bool :=
  ((whole ++ rest).filter Char.isDigit).all (· = '0') && (whole.all Char.isDigit)

/-- The sign and the parts of a number that is not whole. -/
def signedParts (layout : Layout) (form : Option Char) (x : Binary64) :
    Except Fault (Bool × List Char × List Char) := do
  let form := if form = some 'n' then some 'g' else form
  let (whole, rest) ← parts form layout.precision layout.isAlternate x
  return (x.isNegative && !(layout.noNegativeZero && isNought whole rest), whole, rest)

/-- A number that is not whole. -/
def real (layout : Layout) (x : Binary64) : Except Fault String := do
  let (negative, whole, rest) ← signedParts layout (layout.form.map Char.ofNat) x
  laidOut layout negative [] whole rest 3

/-- A complex number. -/
def complex (layout : Layout) (x y : Binary64) : Except Fault String := do
  if layout.form.any fun form => !("eEfFgGn".toList.any (isChar form)) then
    throw (unknownForm (layout.form.getD 0) "complex")
  else if layout.fill = some 0x30 then
    throw (.badValue "Zero padding is not allowed in complex format specifier")
  else if layout.align = some '=' then
    throw (.badValue "'=' alignment flag is not allowed in complex format specifier")
  else
    let form := layout.form.map Char.ofNat
    let bare := { layout with width := 0, fill := none, align := none }
    let part (layout : Layout) (x : Binary64) : Except Fault String := do
      let form := if form.isNone && layout.precision.isSome then some 'g' else form
      let (negative, whole, rest) ← signedParts layout form x
      let rest := if form.isNone && rest = ['.', '0'] then [] else rest
      laidOut layout negative [] whole rest 3
    let imaginary := (← part { bare with sign := some '+' } y) ++ "j"
    let isBare := form.isNone && x.isZero && !x.isNegative
    let text ← if isBare then pure ((← part bare y) ++ "j")
      else do
        let both := (← part bare x) ++ imaginary
        pure (if form.isNone then "(" ++ both ++ ")" else both)
    filled layout true (text.toList.map Char.toNat)

/-! ## Values -/

/-- A text. -/
def text (text layout : String) : Except Fault String := do
  let layout ← read layout "str" (some 's') false
  if layout.form.any fun form => !isChar form 's' then
    throw (unknownForm (layout.form.getD 0) "str")
  else
    match layout.sign with
    | some ' ' => throw (.badValue "Space not allowed in string format specifier")
    | some _ => throw (.badValue "Sign not allowed in string format specifier")
    | none => pure ()
    if layout.noNegativeZero then
      throw (.badValue "Negative zero coercion (z) not allowed in string format specifier")
    else if layout.isAlternate then
      throw (.badValue "Alternate form (#) not allowed in string format specifier")
    else if layout.align = some '=' then
      throw (.badValue "'=' alignment not allowed in string format specifier")
    else
      let points := Text.points text.toList
      filled layout false (match layout.precision with
        | some n => points.take n
        | none => points)

/-- The digits of a whole number in a form, and what stands before them. -/
def intDigits (form : Option Char) (isAlternate : Bool) (n : Nat) :
    Except Fault (List Char × List Char) :=
  let lead (text : String) : List Char := if isAlternate then text.toList else []
  match form with
  | some 'b' => .ok (lead "0b", Nat.toDigits 2 n)
  | some 'o' => .ok (lead "0o", Nat.toDigits 8 n)
  | some 'x' => .ok (lead "0x", Nat.toDigits 16 n)
  | some 'X' => .ok (lead "0X", (Nat.toDigits 16 n).map Char.toUpper)
  | _ => (Shown.int n).map fun text => ([], text.toList)

/-- A whole number. -/
def int (n : Int) (text class' : String) : Except Fault String := do
  let layout ← read text class' (some 'd') true
  let form := layout.form.map Char.ofNat
  let has (forms : String) : Bool := form.all forms.toList.contains
  if form.isSome && has "eEfFgG%" then real layout (← Numeral.ofInt n)
  else if !has "bcdoxXn" then throw (unknownForm (layout.form.getD 0) class')
  else if layout.noNegativeZero then
    throw (.badValue "Negative zero coercion (z) not allowed in integer format specifier")
  else if layout.precision.isSome then
    throw (.badValue "Precision not allowed in integer format specifier")
  else if form = some 'c' then
    if layout.sign.isSome then
      throw (.badValue "Sign not allowed with integer format specifier 'c'")
    else if layout.isAlternate then
      throw (.badValue "Alternate form (#) not allowed with integer format specifier 'c'")
    else if n < 0 || 0x110000 ≤ n then throw .beyondRange
    else filled layout true [n.toNat]
  else
    let (lead, digits) ← intDigits form layout.isAlternate n.natAbs
    laidOut layout (n < 0) lead digits [] (if has "boxX" && form.isSome then 4 else 3)

/-- A value under a layout, where a plain value has one of its own. -/
def plain? (value : Value) (layout : String) : Option (Except Fault String) :=
  match value with
  | .text s => some (text s layout)
  | .int n => some (int n layout "int")
  | .bool b => some (int (if b then 1 else 0) layout "bool")
  | .float x => some do
    let layout ← read layout "float" none true
    if layout.form.any fun form => !("eEfFgGn%".toList.any (isChar form)) then
      throw (unknownForm (layout.form.getD 0) "float")
    else real layout x
  | .complex x y => some do complex (← read layout "complex" none true) x y
  | _ => none

end Layout

end TypeHint

end CallPlan
