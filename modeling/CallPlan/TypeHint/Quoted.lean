import CallPlan.Json.Token
import CallPlan.Text.Surrogate

/-!
# CallPlan.TypeHint.Quoted

What stands between quotes.

A backslash and what follows it stand for one character, for none, or, where they mean nothing, for
themselves. In bytes only octets can be named, and only ASCII characters written.
-/

namespace CallPlan

namespace TypeHint

namespace Quoted

/-- The names of the ASCII characters that are neither letters nor digits, in their order. -/
def markNames : List (Nat × String) :=
  [(0x20, "SPACE"), (0x21, "EXCLAMATION MARK"), (0x22, "QUOTATION MARK"), (0x23, "NUMBER SIGN"),
    (0x24, "DOLLAR SIGN"), (0x25, "PERCENT SIGN"), (0x26, "AMPERSAND"), (0x27, "APOSTROPHE"),
    (0x28, "LEFT PARENTHESIS"), (0x29, "RIGHT PARENTHESIS"), (0x2a, "ASTERISK"),
    (0x2b, "PLUS SIGN"), (0x2c, "COMMA"), (0x2d, "HYPHEN-MINUS"), (0x2e, "FULL STOP"),
    (0x2f, "SOLIDUS"), (0x3a, "COLON"), (0x3b, "SEMICOLON"), (0x3c, "LESS-THAN SIGN"),
    (0x3d, "EQUALS SIGN"), (0x3e, "GREATER-THAN SIGN"), (0x3f, "QUESTION MARK"),
    (0x40, "COMMERCIAL AT"), (0x5b, "LEFT SQUARE BRACKET"), (0x5c, "REVERSE SOLIDUS"),
    (0x5d, "RIGHT SQUARE BRACKET"), (0x5e, "CIRCUMFLEX ACCENT"), (0x5f, "LOW LINE"),
    (0x60, "GRAVE ACCENT"), (0x7b, "LEFT CURLY BRACKET"), (0x7c, "VERTICAL LINE"),
    (0x7d, "RIGHT CURLY BRACKET"), (0x7e, "TILDE")]

/-- The names of the digits. -/
def digitNames : List String :=
  ["ZERO", "ONE", "TWO", "THREE", "FOUR", "FIVE", "SIX", "SEVEN", "EIGHT", "NINE"]

/-- The character of a name, where it is an ASCII one; what else there is stands for the character
that replaces others. -/
def named? (name : String) : Option Nat :=
  let name := name.map fun c => if 'a' ≤ c && c ≤ 'z' then Char.ofNat (c.toNat - 32) else c
  let letter (start : String) (offset : Nat) : Option Nat :=
    if name.startsWith start then
      match name.toList.drop start.length with
      | [c] => if 'A' ≤ c && c ≤ 'Z' then some (c.toNat + offset) else none
      | _ => none
    else none
  let digits := (List.range 10).zip digitNames
  (markNames.find? (·.2 = name)).map Prod.fst <|>
    (digits.find? fun (_, digit) => "DIGIT " ++ digit = name).map (·.1 + 0x30) <|>
    letter "LATIN CAPITAL LETTER " 0 <|>
    letter "LATIN SMALL LETTER " 32 <|>
    (if name.contains ' ' && name.all (fun c => c.isAlphanum || c = ' ' || c = '-') then some 0xfffd
      else none)

/-- The number that hexadecimal digits stand for, if there are as many as asked for. -/
def hexNumber? (width : Nat) (cs : List Char) : Option Nat := do
  guard (cs.length = width)
  let values ← cs.mapM Token.hexValue?
  return values.foldl (fun n d => n * 16 + d) 0

/-- Whether a character is an octal digit. -/
def isOctal (c : Char) : Bool := '0' ≤ c && c ≤ '7'

/-- What a letter after a backslash stands for. -/
def letter? (c : Char) : Option Nat :=
  List.lookup c [('\\', 0x5c), ('\x27', 0x27), ('\x22', 0x22), ('a', 7), ('b', 8), ('f', 12),
    ('n', 10), ('r', 13), ('t', 9), ('v', 11)]

/-- What an escape stands for, from the character after the backslash on, and what follows it. -/
def escape (isBytes : Bool) : List Char → Option (List Nat × List Char)
  | [] => none
  | c :: rest =>
    let hex (width : Nat) : Option (List Nat × List Char) := do
      let n ← hexNumber? width (rest.take width)
      guard (n < 0x110000)
      return ([n], rest.drop width)
    match letter? c with
    | some n => some ([n], rest)
    | none =>
      if c = '\n' then some ([], rest)
      else if isOctal c then
        let found := ((c :: rest).take 3).takeWhile isOctal
        let n := found.foldl (fun n d => n * 8 + (d.toNat - 48)) 0
        some ([if isBytes then n % 256 else n], (c :: rest).drop found.length)
      else if c = 'x' then hex 2
      else if isBytes then some ([0x5c, c.toNat], rest)
      else if c = 'u' then hex 4
      else if c = 'U' then hex 8
      else if c = 'N' then
        match rest with
        | '{' :: rest =>
          match rest.dropWhile (· ≠ '}') with
          | '}' :: after => (named? (String.ofList (rest.takeWhile (· ≠ '}')))).map ([·], after)
          | _ => none
        | _ => none
      else some ([0x5c, c.toNat], rest)

/-- The code points that a text with escapes stands for; a step of fuel for each character. -/
def unescape (isBytes : Bool) : (fuel : Nat) → List Char → Option (List Nat)
  | 0, cs => if cs.isEmpty then some [] else none
  | _, [] => some []
  | _, ['\\'] => some [0x5c]
  | fuel + 1, '\\' :: rest => do
    let (made, rest) ← escape isBytes rest
    return made ++ (← unescape isBytes fuel rest)
  | fuel + 1, c :: rest => (unescape isBytes fuel rest).map (c.toNat :: ·)

/-- The code points that stand between quotes, where backslashes may be ordinary characters. -/
def content (isRaw isBytes : Bool) (cs : List Char) : Option (List Nat) :=
  if isBytes && cs.any fun c => 0x7f < c.toNat then none
  else if isRaw then some (cs.map Char.toNat)
  else unescape isBytes cs.length cs

/-- The text of code points. -/
def textOf (points : List Nat) : String := String.ofList (Text.ofPoints points)

end Quoted

end TypeHint

end CallPlan
