import CallPlan.Json.Printer
import CallPlan.Text.Encoding
import CallPlan.Text.Printable

/-!
# CallPlan.Json.Literal

The form in which values are shown inside messages. A text is shown bare on its own and quoted
inside a list or an object; the words for null and the truth values are capitalised. Like every form
it is of use for values that can be written (`Json.spelled`).
-/

namespace CallPlan

namespace Text

/-- A character inside a literal quoted with `quote`. -/
def quoteChar (quote c : Char) : List Char :=
  if c = quote || c = '\\' then ['\\', c]
  else if c = '\n' then ['\\', 'n']
  else if c = '\r' then ['\\', 'r']
  else if c = '\t' then ['\\', 't']
  else if 0x20 ≤ c.toNat && c.toNat < 0x7f then [c]
  else if isPrintable c then [c]
  else pointEscape c.toNat

/-- A code point inside a literal quoted with `quote`. -/
def quotePoint (quote : Char) (n : Nat) : List Char :=
  if isSurrogate n then pointEscape n else quoteChar quote (Char.ofNat n)

/-- A quoted literal: single quotes, unless the text holds single quotes and no double ones. -/
def quoted (text : String) : List Char :=
  let cs := text.toList
  let quote := if cs.contains '\x27' && !cs.contains '\x22' then '\x22' else '\x27'
  quote :: ((points cs).flatMap (quotePoint quote) ++ [quote])

end Text

namespace Json

mutual

/-- A value inside a list or an object of a message. -/
def literal : Json → List Char
  | .null => ['N', 'o', 'n', 'e']
  | .bool true => ['T', 'r', 'u', 'e']
  | .bool false => ['F', 'a', 'l', 's', 'e']
  | .num n => writeNumber .message n
  | .str s => Text.quoted s
  | .arr items => '[' :: (literalItems items ++ [']'])
  | .obj members => '\x7b' :: (literalMembers members ++ ['\x7d'])

/-- The items of a list in a message. -/
def literalItems : List Json → List Char
  | [] => []
  | [item] => literal item
  | item :: rest => literal item ++ ',' :: ' ' :: literalItems rest

/-- The members of an object in a message. -/
def literalMembers : List (String × Json) → List Char
  | [] => []
  | [(key, value)] => Text.quoted key ++ ':' :: ' ' :: literal value
  | (key, value) :: rest =>
    Text.quoted key ++ ':' :: ' ' :: (literal value ++ ',' :: ' ' :: literalMembers rest)

end

/-- The form of a value on its own in a message: a text bare, any other value as inside a list. -/
def display : Json → String
  | .str s => s
  | value => String.ofList value.literal

end Json

end CallPlan
