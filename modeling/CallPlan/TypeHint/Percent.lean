import CallPlan.TypeHint.Item
import CallPlan.TypeHint.Layout

/-!
# CallPlan.TypeHint.Percent

Texts that are put together after a percent sign.

* A value is laid out where its directive stands: a percent sign, perhaps a key in brackets, flags,
  a width, a precision, and a letter that says how.
* The values are the items of a tuple, in order, or those of a table under the keys; all of a tuple
  must be used up.
-/

namespace CallPlan

namespace TypeHint

/-- A directive: its key, flags, width and precision, and its letter with the position of the
letter. A star stands for the next value. -/
structure Directive where
  key : Option String
  flags : List Char
  width : Option (Option Nat)
  precision : Option (Option Nat)
  letter : Nat
  position : Nat

namespace Directive

/-- The key up to the closing bracket, in which brackets may stand; `depth` counts them. -/
def keyPart : (depth : Nat) → List Nat → Option (List Nat × List Nat)
  | _, [] => none
  | depth, n :: rest =>
    if n = 0x29 then
      if depth = 0 then some ([], rest)
      else (keyPart (depth - 1) rest).map fun (k, r) => (n :: k, r)
    else
      (keyPart (if n = 0x28 then depth + 1 else depth) rest).map fun (k, r) => (n :: k, r)

/-- The largest width and precision. -/
def numberLimit : Nat := 2147483647

/-- A number or a star, at the start of code points. -/
def number (what : String) (ns : List Nat) : Except Fault (Option (Option Nat) × List Nat) :=
  match ns with
  | 0x2a :: rest => .ok (some none, rest)
  | ns =>
    let digits := ns.takeWhile fun n => 0x30 ≤ n && n < 0x3a
    let value := digits.foldl (fun n d => n * 10 + (d - 0x30)) 0
    if digits.isEmpty then .ok (none, ns)
    else if numberLimit < value then .error (.badValue (what ++ " too big"))
    else .ok (some (some value), ns.drop digits.length)

/-- What is said about a directive that ends too early. -/
def incomplete : Fault := .badValue "incomplete format"

/-- A directive after its percent sign, and what follows it. -/
def read (size : Nat) (ns : List Nat) : Except Fault (Directive × List Nat) := do
  let (key, ns) ← match ns with
    | 0x28 :: rest =>
      match keyPart 0 rest with
      | some (key, rest) => pure (some (Quoted.textOf key), rest)
      | none => throw (.badValue "incomplete format key")
    | ns => pure (none, ns)
  let isFlag (n : Nat) : Bool := "-+ #0".toList.any (Layout.isChar n)
  let flags := (ns.takeWhile isFlag).map Char.ofNat
  let (width, ns) ← number "width" (ns.dropWhile isFlag)
  let (precision, ns) ← match ns with
    | 0x2e :: rest => do
      let (precision, rest) ← number "precision" rest
      pure (some ((precision.getD (some 0))), rest)
    | ns => pure (none, ns)
  let ns := match ns with
    | n :: rest => if "hlL".toList.any (Layout.isChar n) then rest else n :: rest
    | [] => []
  match ns with
  | [] => throw incomplete
  | letter :: rest => return (⟨key, flags, width, precision, letter, size - ns.length⟩, rest)

end Directive

namespace Machine

variable (m : Machine)

/-- A value as it is shown on its own. -/
def display (value : Value) : Action String := do
  match ← m.special? value "__str__" [] with
  | some shown => Machine.text shown
  | none =>
    match ← m.special? value "__repr__" [] with
    | some shown => Machine.text shown
    | none => value.displayed

/-- A value as it is shown within others. -/
def literal (value : Value) : Action String := do
  match ← m.special? value "__repr__" [] with
  | some shown => Machine.text shown
  | none => value.shown

/-- A value as it is shown within others, in ASCII characters alone. -/
def asciiLiteral (value : Value) : Action String := do
  let escaped (n : Nat) : List Char :=
    if n < 0x80 then [Char.ofNat n]
    else if n < 0x100 then '\\' :: 'x' :: Text.hexDigits 2 n
    else if n < 0x10000 then '\\' :: 'u' :: Text.hexDigits 4 n
    else '\\' :: 'U' :: Text.hexDigits 8 n
  return String.ofList ((Text.points (← m.literal value).toList).flatMap escaped)

/-- The whole number that a value is; `mayCut` says that places after the point may be cut off. -/
def wholeNumber (value : Value) (mayCut : Bool) : Action Int := do
  match ← value.plain with
  | .float x => if mayCut then Value.lift (Numeral.truncated x) else throw .unsuited
  | plain =>
    match plain.int? with
    | some n => return n
    | none =>
      let cut ← if mayCut then m.special? value "__int__" [] else pure none
      match cut with
      | some outcome =>
        match outcome.int? with
        | some n => return n
        | none => throw .unsuited
      | none => m.index value

/-- A value as a directive lays it out. -/
def directed (d : Directive) (flags : List Char) (width : Nat) (precision : Option Nat)
    (value : Value) : Action String := do
  let letter := Char.ofNat d.letter
  let align := if flags.contains '-' then '<' else '>'
  let signs : Option Char := if flags.contains '+' then some '+'
    else if flags.contains ' ' then some ' ' else none
  let isZeroed := flags.contains '0' && !flags.contains '-'
  let numbers : Layout := ⟨if isZeroed then some 0x30 else none,
    some (if isZeroed then '=' else align), signs, false, flags.contains '#', width, none,
    precision,
    some d.letter⟩
  let texts : Layout := ⟨none, some align, none, false, false, width, none, none, none⟩
  let cut (text : String) : List Nat :=
    let points := Text.points text.toList
    match precision with
    | some n => points.take n
    | none => points
  if "diu".toList.contains letter || "oxX".toList.contains letter then
    let n ← m.wholeNumber value ("diu".toList.contains letter)
    let form := if "diu".toList.contains letter then 'd' else letter
    let (lead, digits) ← Value.lift (Layout.intDigits (some form) (flags.contains '#') n.natAbs)
    let digits := List.replicate (precision.getD 0 - digits.length) '0' ++ digits
    Value.lift (Layout.laidOut numbers (n < 0) lead digits [] 3)
  else if "eEfFgG".toList.contains letter then
    match Numeral.of? (← value.plain) with
    | some a => Value.lift (do Layout.real numbers (← a.real))
    | none =>
      match ← m.special? value "__float__" [] with
      | some (.float x) => Value.lift (Layout.real numbers x)
      | _ => throw .unsuited
  else
    match letter with
    | 's' => Value.lift (Layout.filled texts true (cut (← m.display value)))
    | 'r' => Value.lift (Layout.filled texts true (cut (← m.literal value)))
    | 'a' => Value.lift (Layout.filled texts true (cut (← m.asciiLiteral value)))
    | 'c' =>
      match ← value.plain with
      | .text s =>
        if Text.length s = 1 then Value.lift (Layout.filled texts true (Text.points s.toList))
        else throw .unsuited
      | plain =>
        match plain.int? with
        | some n =>
          if n < 0 || 0x110000 ≤ n then throw .beyondRange
          else Value.lift (Layout.filled texts true [n.toNat])
        | none => throw .unsuited
    | _ =>
      let shown := if 0x20 ≤ d.letter && d.letter < 0x7f then letter.toString else "?"
      throw (.badValue ("unsupported format character '" ++ shown ++ "' (0x" ++
        String.ofList (Nat.toDigits 16 d.letter) ++ ") at index " ++ toString d.position))

/-- The next of the values that are left. -/
def nextOf (values : List Value) : Action (Value × List Value) :=
  match values with
  | value :: rest => return (value, rest)
  | [] => throw .unsuited

/-- A number of a directive; a star takes it from the values. -/
def measure (isWidth : Bool) (number : Option (Option Nat)) (values : List Value) :
    Action (Option Int × List Value) := do
  match number with
  | none => return (none, values)
  | some (some n) => return (some (Int.ofNat n), values)
  | some none =>
    let (value, rest) ← nextOf values
    match value.int? with
    | some n => return (some (if isWidth then n else max n 0), rest)
    | none => throw .unsuited

/-- The text that directives make of values; a step of fuel for each code point. -/
def percentIn (owner : Value) (isTable : Bool) (size : Nat) :
    (fuel : Nat) → List Nat → List Value → Action (List String × List Value)
  | 0, _, values => return ([], values)
  | fuel + 1, ns, values => do
    match ns with
    | [] => return ([], values)
    | 0x25 :: rest =>
      let (d, after) ← Value.lift (Directive.read size rest)
      if d.letter = 0x25 && d.key.isNone then
        let (texts, values) ← percentIn owner isTable size fuel after values
        return ("%" :: texts, values)
      else
        let (keyed, values) ← match d.key with
          | none => pure (none, values)
          | some key =>
            if isTable then pure (some (← m.item owner (.text key)), values)
            else throw .unsuited
        let values := match keyed with
          | some value => [value]
          | none => values
        let (width, values) ← measure true d.width values
        let (precision, values) ← measure false d.precision values
        if d.letter = 0x25 then
          let (texts, values) ← percentIn owner isTable size fuel after values
          return ("%" :: texts, values)
        else
          let (value, values) ← nextOf values
          let flags := if width.any (· < 0) then '-' :: d.flags else d.flags
          let text ← m.directed d flags ((width.map Int.natAbs).getD 0) (precision.map Int.toNat)
            value
          let (texts, values) ← percentIn owner isTable size fuel after values
          return (text :: texts, values)
    | ns =>
      let literal := ns.takeWhile (· ≠ 0x25)
      let (texts, values) ← percentIn owner isTable size fuel (ns.drop literal.length) values
      return (Quoted.textOf literal :: texts, values)

/-- The text that directives make of a value, or of the items of a tuple. -/
def percent (text : String) (value : Value) : Action String := do
  let store ← get
  let ns := Text.points text.toList
  let (isTuple, values) : Bool × List Value := match store.plainIn value with
    | .tuple items => (true, items)
    | _ => (false, [value])
  -- what gives values for keys need not be used up
  let isTable := !isTuple && (match store.plainIn value with
    | .text _ => false
    | .bytes _ | .range .. | .view .whole _ | .applied .. | .generic .. | .choice _ => true
    | .reference address =>
      match store.get? address with
      | some (.list _) | some (.table _) | some (.octets _) => true
      | some (.record (.reference type) ..) =>
        (store.madeMember? (.reference type) "__getitem__").isSome
      | _ => false
    | _ => false)
  let (texts, left) ← m.percentIn value isTable ns.length (ns.length + 1) ns values
  if left.isEmpty || isTable then return String.join texts else throw .unsuited

end Machine

end TypeHint

end CallPlan
