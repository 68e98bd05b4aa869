import CallPlan.Number.Binary64
import CallPlan.Text.Digit
import CallPlan.Text.Name
import CallPlan.Text.NormalForm
import CallPlan.TypeHint.Quoted

/-!
# CallPlan.TypeHint.Token

The tokens of a type hint: names, numbers, quoted texts and symbols.

* Blanks and comments stand between tokens. Outside brackets a line break is a token of its own, and
  a line does not begin with a blank.
* A name may be spelled with letters of other shapes; it is the name in the usual ones. Reserved
  words are not names, unless they are spelled so.
* Texts with expressions in them keep what stands between their quotes.
* Brackets stand in one another to a limit.
-/

namespace CallPlan

namespace TypeHint

/-- A token of a type hint. -/
inductive Token where
  | name (text : String)
  | word (text : String)
  | int (value : Nat)
  | float (value : Binary64)
  | imaginary (value : Binary64)
  | text (content : String)
  | bytes (octets : List Nat)
  /-- A text with expressions in braces; `isRaw` says whether backslashes are ordinary. -/
  | formatted (isRaw : Bool) (content : List Char)
  | symbol (text : String)
  /-- The default of the parameter at a place. -/
  | given (place : Nat)
  | lineBreak
  deriving DecidableEq, Inhabited

namespace Token

/-! ## Names -/

/-- The reserved words. -/
def reserved : List String :=
  ["False", "None", "True", "and", "as", "assert", "async", "await", "break", "class", "continue",
    "def", "del", "elif", "else", "except", "finally", "for", "from", "global", "if", "import",
    "in", "is", "lambda", "nonlocal", "not", "or", "pass", "raise", "return", "try", "while",
    "with", "yield"]

/-- A name in the usual letters. -/
def plainName (cs : List Char) : String :=
  String.ofList ((Text.normalForm (cs.map Char.toNat)).map Char.ofNat)

/-- A name or a reserved word. -/
def ofName (cs : List Char) : Token :=
  let text := String.ofList cs
  if reserved.contains text then .word text else .name (plainName cs)

/-! ## Numbers -/

/-- The digits at the front of a text, between which single underscores may stand, and what
follows. -/
def digits (isDigit : Char → Bool) : List Char → List Char × List Char
  | [] => ([], [])
  | [c] => if isDigit c then ([c], []) else ([], [c])
  | c :: d :: rest =>
    if isDigit c then
      match d, rest with
      | '_', e :: rest =>
        if isDigit e then
          let (more, rest) := digits isDigit (e :: rest)
          (c :: more, rest)
        else ([c], d :: e :: rest)
      | d, rest =>
        let (more, rest) := digits isDigit (d :: rest)
        (c :: more, rest)
    else ([], c :: d :: rest)

/-- The number that digits of a base stand for. -/
def valueOf (base : Nat) (cs : List Char) : Nat :=
  cs.foldl (fun n c => n * base + (CallPlan.Token.hexValue? c).getD 0) 0

/-- Whether a number may end where the rest of a text begins: not in a name, unless a reserved word
follows that may stand behind a value. -/
def endsNumber (rest : List Char) : Bool :=
  match rest with
  | [] => true
  | c :: _ =>
    !(Text.isNamePart c || 0x7f < c.toNat) ||
      ["and", "else", "for", "if", "in", "is", "or", "not"].any fun word =>
        word.toList.isPrefixOf rest

/-- The number of a base after its mark. -/
def scanBase (base : Nat) (rest : List Char) : Option (Token × List Char) :=
  let isDigit (c : Char) : Bool :=
    match CallPlan.Token.hexValue? c with
    | some n => n < base
    | none => false
  let rest := match rest with
    | '_' :: rest => rest
    | rest => rest
  match digits isDigit rest with
  | ([], _) => none
  | (found, rest) =>
    if endsNumber rest && rest.head?.all (fun c => !c.isDigit) then
      some (.int (valueOf base found), rest)
    else none

/-- The exponent at the front of a text, if there is one, and what follows. -/
def scanExponent (cs : List Char) : Option (Int × List Char) :=
  match cs with
  | e :: rest =>
    if e = 'e' || e = 'E' then
      let (negative, rest) := match rest with
        | '-' :: rest => (true, rest)
        | '+' :: rest => (false, rest)
        | rest => (false, rest)
      match digits Char.isDigit rest with
      | ([], _) => none
      | (found, rest) =>
        let n : Int := valueOf 10 found
        some (if negative then -n else n, rest)
    else none
  | [] => none

/-- The decimal number at the front of a text. -/
def scanDecimal (cs : List Char) : Option (Token × List Char) :=
  let (whole, rest) := digits Char.isDigit cs
  let (fraction, rest) : Option (List Char) × List Char := match rest with
    | '.' :: rest =>
      let (found, rest) := digits Char.isDigit rest
      (some found, rest)
    | rest => (none, rest)
  if whole.isEmpty && (fraction.getD []).isEmpty then none
  else
    let (exponent, rest) : Option Int × List Char := match scanExponent rest with
      | some (n, rest) => (some n, rest)
      | none => (none, rest)
    let (hasMark, rest) := match rest with
      | c :: after => if c = 'j' || c = 'J' then (true, after) else (false, rest)
      | [] => (false, rest)
    let places := fraction.getD []
    let value := Binary64.ofDecimal false (valueOf 10 (whole ++ places))
      (exponent.getD 0 - places.length)
    let token : Option Token :=
      if hasMark then some (.imaginary value)
      else if fraction.isSome || exponent.isSome then some (.float value)
      else if whole.length > Text.digitLimit then none
      else if whole.head? = some '0' && whole.any (· ≠ '0') then none
      else some (.int (valueOf 10 whole))
    if endsNumber rest then token.map (·, rest) else none

/-- The number at the front of a text. -/
def scanNumber (cs : List Char) : Option (Token × List Char) :=
  match cs with
  | '0' :: mark :: rest =>
    if mark = 'x' || mark = 'X' then scanBase 16 rest
    else if mark = 'o' || mark = 'O' then scanBase 8 rest
    else if mark = 'b' || mark = 'B' then scanBase 2 rest
    else scanDecimal cs
  | cs => scanDecimal cs

/-! ## Quoted texts -/

/-- The letters that may stand before a quote. -/
def quotingMarks : List String := ["r", "u", "b", "f", "br", "rb", "fr", "rf"]

/-- What stands before the closing quote, and what follows it. One quote or three close a text; only
three let it go on after the end of a line that no backslash precedes. -/
def toClosing (quote : Char) (isLong : Bool) (before : List Char) :
    List Char → Option (List Char × List Char)
  | [] => none
  | '\\' :: d :: rest => toClosing quote isLong (d :: '\\' :: before) rest
  | c :: rest =>
    if c = quote && (!isLong || [c, c].isPrefixOf rest) then
      some (before.reverse, if isLong then rest.drop 2 else rest)
    else if c = '\n' && !isLong then none
    else toClosing quote isLong (c :: before) rest

/-- The quoted text whose marks have been read. -/
def scanText (marks : String) (quote : Char) (rest : List Char) : Option (Token × List Char) := do
  let has (c : Char) : Bool := marks.toLower.toList.contains c
  let isLong := [quote, quote].isPrefixOf rest
  let (inner, rest) ← toClosing quote isLong [] (if isLong then rest.drop 2 else rest)
  if has 'f' then return (.formatted (has 'r') inner, rest)
  else do
    let points ← Quoted.content (has 'r') (has 'b') inner
    return (if has 'b' then .bytes points else .text (Quoted.textOf points), rest)

/-! ## Symbols -/

/-- The symbols, longer ones first. -/
def symbols : List String :=
  ["**=", "//=", ">>=", "<<=", "...", "**", "//", "<<", ">>", "<=", ">=", "==", "!=", "->", ":=",
    "+=", "-=", "*=", "/=", "%=", "@=", "&=", "|=", "^=", "+", "-", "*", "/", "%", "@", "&", "|",
    "^", "~", "<", ">", "(", ")", "[", "]", "\x7b", "\x7d", ",", ":", ".", ";", "="]

/-- The symbol at the front of a text. -/
def scanSymbol (cs : List Char) : Option (String × List Char) :=
  (symbols.find? fun s => s.toList.isPrefixOf cs).map fun s => (s, cs.drop s.length)

/-- How deep brackets stand in one another at most. -/
def depthLimit : Nat := 200

/-- The brackets that are open after a symbol. -/
def depthAfter (depth : Nat) (symbol : String) : Option Nat :=
  if ["(", "[", "\x7b"].contains symbol then
    if depth < depthLimit then some (depth + 1) else none
  else if [")", "]", "\x7d"].contains symbol then some (depth - 1)
  else some depth

/-! ## Texts -/

/-- Before the place of a parameter, the character that no text may hold stands for its default. -/
def givenMark : Char := Char.ofNat 0

/-- The token at the front of a text. -/
def scanOne (c : Char) (rest : List Char) : Option (Token × List Char) :=
  if c = '\x27' || c = '\x22' then scanText "" c rest
  else if c = givenMark then
    let place := rest.takeWhile Char.isDigit
    some (.given (valueOf 10 place), rest.drop place.length)
  else if Text.isNameStart c then
    let name := c :: rest.takeWhile Text.isNamePart
    match rest.dropWhile Text.isNamePart with
    | q :: after =>
      let marks := String.ofList name
      if (q = '\x27' || q = '\x22') && quotingMarks.contains marks.toLower then
        scanText marks q after
      else some (.ofName name, q :: after)
    | [] => some (.ofName name, [])
  else if c.isDigit || (c = '.' && (rest.head?.map Char.isDigit).getD false) then
    scanNumber (c :: rest)
  else (scanSymbol (c :: rest)).map fun (s, rest) => (.symbol s, rest)

/-- Whether nothing but blanks and a comment stands before the next line; there is one, or a
comment. -/
def isVoidLine (cs : List Char) : Bool :=
  match cs.dropWhile fun c => c = ' ' || c = '\t' || c.toNat = 12 with
  | [] => false
  | c :: _ => c = '\n' || c = '#'

/-- The tokens of a text; a step of fuel for each token and each blank. `depth` is the number of
open brackets, and `fresh` says whether the text is at the start of a line. -/
def scan : (fuel depth : Nat) → (fresh : Bool) → List Char → Option (List Token)
  | 0, _, _, _ => none
  | _, _, _, [] => some []
  | fuel + 1, depth, fresh, c :: rest =>
    if c = '\n' then
      let breaks := depth = 0 && !fresh
      (scan fuel depth (fresh || breaks) rest).map fun ts => if breaks then .lineBreak :: ts else ts
    else if c.toNat = 12 then scan fuel depth fresh rest
    else if c = ' ' || c = '\t' then
      if depth = 0 && fresh && !isVoidLine rest then none else scan fuel depth fresh rest
    else if c = '#' then
      match rest.dropWhile (· ≠ '\n') with
      | [] => if depth = 0 then some [] else none
      | rest => scan fuel depth fresh rest
    else if c = '\\' then
      match rest with
      | '\n' :: rest => scan fuel depth fresh rest
      | _ => none
    else
      match scanOne c rest with
      | none => none
      | some (token, rest) =>
        let after := match token with
          | .symbol s => depthAfter depth s
          | _ => some depth
        match after with
        | some depth => (scan fuel depth false rest).map (token :: ·)
        | none => none

/-- Each line break as one character. -/
def unifyBreaks : List Char → List Char
  | '\r' :: '\n' :: rest => '\n' :: unifyBreaks rest
  | '\r' :: rest => '\n' :: unifyBreaks rest
  | c :: rest => c :: unifyBreaks rest
  | [] => []

/-- The tokens of a text. -/
def list? (cs : List Char) : Option (List Token) :=
  let cs := unifyBreaks cs
  scan (cs.length + 1) 0 true cs

/-- The tokens of a text between brackets of its own. -/
def enclosed? (cs : List Char) : Option (List Token) := list? ('(' :: cs ++ [')'])

end Token

end TypeHint

end CallPlan
