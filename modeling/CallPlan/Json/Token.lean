import CallPlan.Json.Basic
import CallPlan.Text.Digit
import CallPlan.Text.Encoding

/-!
# CallPlan.Json.Token

The tokens of JSON text.

* `Token.scan` reads the token that starts at a character, with the number of characters it takes;
  a token is as long as its rule allows. What no rule accepts is a `fault` token, which ends the
  list of tokens: a reader meets it in its place, or complains about that place before it.
* `Token.list` gives the tokens of a text with the offsets at which they start.
* Strings are decoded: a pair of escaped surrogates is one character, and a surrogate on its own is
  recorded, because some readers refuse it.
-/

namespace CallPlan

/-- Why a text is not JSON. -/
inductive JsonFault where
  | expectingValue
  | expectingKey
  | expectingColon
  | expectingComma
  | extraData
  | unterminatedString
  | controlCharacter
  | invalidEscape
  | invalidUnicodeEscape
  | loneSurrogate
  | tooDeep
  /-- An integer with more digits than are converted. -/
  | longInteger (digits : Nat)
  /-- Bytes that are no text. -/
  | undecodable (fault : Text.DecodeFault)
  deriving DecidableEq, Inhabited

/-- A token of JSON text. -/
inductive Token where
  | openBrace
  | closeBrace
  | openBracket
  | closeBracket
  | colon
  | comma
  /-- A string; `paired` says that no surrogate stands alone in it. -/
  | str (text : String) (paired : Bool)
  /-- Null, a truth value or a word for a number. -/
  | atom (value : Json)
  /-- A number, and how many digits its integer part has. -/
  | number (value : Number) (digits : Nat)
  /-- Nothing readable: the fault, and how far after the token's start it lies. -/
  | fault (cause : JsonFault) (offset : Nat)
  deriving DecidableEq, Inhabited

namespace Token

/-- The blanks between tokens. -/
def isSpace (c : Char) : Bool := c = ' ' || c = '\t' || c = '\n' || c = '\r'

/-- The ASCII decimal digits. -/
def isDigit (c : Char) : Bool := '0' ≤ c && c ≤ '9'

/-! ## Strings -/

/-- The value of a hexadecimal digit. -/
def hexValue? (c : Char) : Option Nat :=
  if isDigit c then some (c.toNat - 48)
  else if 'a' ≤ c && c ≤ 'f' then some (c.toNat - 87)
  else if 'A' ≤ c && c ≤ 'F' then some (c.toNat - 55)
  else none

/-- The code unit that four hexadecimal digits name. -/
def hexUnit? (a b c d : Char) : Option Nat := do
  let a ← hexValue? a
  let b ← hexValue? b
  let c ← hexValue? c
  let d ← hexValue? d
  return ((a * 16 + b) * 16 + c) * 16 + d

/-- The character that a one-letter escape names. -/
def shortEscape? (c : Char) : Option Nat :=
  if c = '\x22' then some 0x22
  else if c = '\\' then some 0x5c
  else if c = '/' then some 0x2f
  else if c = 'b' then some 8
  else if c = 'f' then some 12
  else if c = 'n' then some 10
  else if c = 'r' then some 13
  else if c = 't' then some 9
  else none

/-- The rest of a string after its opening quote: its code units and the number of characters up to
and with the closing quote, or a fault and its offset. Offsets count from the opening quote. A
`\u` escape needs four hexadecimal digits and something after them. -/
def stringUnits (offset : Nat) (units : List Nat) :
    List Char → Except (JsonFault × Nat) (List Nat × Nat)
  | [] => .error (.unterminatedString, 0)
  | c :: rest =>
    if c = '\x22' then .ok (units.reverse, offset + 1)
    else if c = '\\' then
      match rest with
      | [] => .error (.unterminatedString, 0)
      | e :: rest =>
        if e = 'u' then
          match rest with
          | h₁ :: h₂ :: h₃ :: h₄ :: next :: rest =>
            match hexUnit? h₁ h₂ h₃ h₄ with
            | some unit => stringUnits (offset + 6) (unit :: units) (next :: rest)
            | none => .error (.invalidUnicodeEscape, offset + 1)
          | _ => .error (.invalidUnicodeEscape, offset + 1)
        else
          match shortEscape? e with
          | some unit => stringUnits (offset + 2) (unit :: units) rest
          | none => .error (.invalidEscape, offset)
    else if c.toNat < 0x20 then .error (.controlCharacter, offset)
    else stringUnits (offset + 1) (c.toNat :: units) rest

/-! ## Numbers -/

/-- The number at the start of a text that begins after an optional minus sign, with the number of
characters it takes: an integer part without needless zeros, then a fraction and an exponent if
they are complete. -/
def scanNumber (negative : Bool) (cs : List Char) : Token × Nat :=
  let digits := cs.takeWhile isDigit
  match digits with
  | [] => (.fault .expectingValue 0, 1)
  | first :: _ =>
    let whole := if first = '0' then ['0'] else digits
    let afterWhole := cs.drop whole.length
    let fraction : List Char :=
      match afterWhole with
      | c :: rest => if c = '.' then rest.takeWhile isDigit else []
      | [] => []
    let fractionLength := if fraction.isEmpty then 0 else fraction.length + 1
    let afterFraction := afterWhole.drop fractionLength
    let exponent : Option (Int × Nat) :=
      match afterFraction with
      | e :: rest =>
        if e = 'e' || e = 'E' then
          let (sign, signLength, rest) : Int × Nat × List Char :=
            match rest with
            | s :: tail =>
              if s = '-' then (-1, 1, tail) else if s = '+' then (1, 1, tail) else (1, 0, rest)
            | [] => (1, 0, rest)
          let power := rest.takeWhile isDigit
          if power.isEmpty then none
          else some (sign * (Nat.ofDigitChars 10 power 0 : Int), 1 + signLength + power.length)
        else none
      | [] => none
    let signLength := if negative then 1 else 0
    match exponent, fraction with
    | none, [] =>
      let length := signLength + whole.length
      if Text.digitLimit < whole.length then (.fault (.longInteger whole.length) 0, length)
      else
        let value : Int := Nat.ofDigitChars 10 whole 0
        (.number (.int (if negative then -value else value)) whole.length, length)
    | _, _ =>
      let (power, exponentLength) := exponent.getD (0, 0)
      let value := Binary64.ofDecimal negative (Nat.ofDigitChars 10 (whole ++ fraction) 0)
        (power - fraction.length)
      (.number (.float value) whole.length,
        signLength + whole.length + fractionLength + exponentLength)

/-! ## Tokens -/

/-- The words that stand for values. -/
def words : List (List Char × Json) :=
  [("null".toList, .null), ("true".toList, .bool true), ("false".toList, .bool false),
    ("NaN".toList, .float .nan), ("Infinity".toList, .float (.infinite false)),
    ("-Infinity".toList, .float (.infinite true))]

/-- The token that starts at a character that is not a blank, and the number of characters it
takes. -/
def scan (c : Char) (rest : List Char) : Token × Nat :=
  if c = '\x7b' then (.openBrace, 1)
  else if c = '\x7d' then (.closeBrace, 1)
  else if c = '[' then (.openBracket, 1)
  else if c = ']' then (.closeBracket, 1)
  else if c = ':' then (.colon, 1)
  else if c = ',' then (.comma, 1)
  else if c = '\x22' then
    match stringUnits 1 [] rest with
    | .ok (units, length) =>
      (.str (String.ofList (Text.ofUnits units)) (Text.unitsPaired units), length)
    | .error (cause, offset) => (.fault cause offset, 1)
  else
    match words.find? fun (word, _) => word.isPrefixOf (c :: rest) with
    | some (word, value) => (.atom value, word.length)
    | none => if c = '-' then scanNumber true rest else scanNumber false (c :: rest)

/-- The tokens of a text with their offsets, after `found` (in reverse); the next `skip` characters
belong to the last token. Nothing is read after a fault. -/
def listFrom (skip offset : Nat) (found : List (Token × Nat)) : List Char → List (Token × Nat)
  | [] => found.reverse
  | c :: rest =>
    match skip with
    | skip + 1 => listFrom skip (offset + 1) found rest
    | 0 =>
      if isSpace c then listFrom 0 (offset + 1) found rest
      else
        match scan c rest with
        | (.fault cause place, _) => ((.fault cause place, offset) :: found).reverse
        | (token, length) => listFrom (length - 1) (offset + 1) ((token, offset) :: found) rest

/-- The tokens of a text with the offsets at which they start. -/
def list (cs : List Char) : List (Token × Nat) := listFrom 0 0 [] cs

end Token

end CallPlan
