import CallPlan.Json.Location
import CallPlan.Number.Shortest
import CallPlan.Text.Digit
import CallPlan.Text.Encoding

/-!
# CallPlan.Json.Printer

JSON text of a value.

* `TextStyle` holds the decisions of one written form: the separators, whether characters other than
  printable ASCII are escaped, and the layout of double-precision numbers. Three styles are in use:
  spaced text for people and models, the same in ASCII alone, and compact documents.
* The written form of a value is a matter of its shape alone. Whether it is ever written is another:
  a value with a whole number of too many digits is not (`spelled`), except as a compact document.
-/

namespace CallPlan

/-- The decisions of one written form of JSON. -/
structure TextStyle where
  comma : List Char
  colon : List Char
  /-- Whether every character other than printable ASCII is written as an escape. -/
  ascii : Bool
  layout : DecimalLayout

namespace TextStyle

/-- Spaced text; only control characters, quotes and backslashes are escaped. -/
def spaced : TextStyle := ⟨[',', ' '], [':', ' '], false, .json⟩

/-- Spaced text in printable ASCII alone. -/
def spacedAscii : TextStyle := { spaced with ascii := true }

/-- Compact documents. -/
def compact : TextStyle := ⟨[','], [':'], false, .compact⟩

end TextStyle

namespace Json

/-! ## Strings -/

/-- The four hexadecimal digits of a code unit. -/
def hex4 (n : Nat) : List Char := Text.hexDigits 4 n

/-- The escape of a code point: one code unit, or two above the basic plane. -/
def unicodeEscape (n : Nat) : List Char :=
  if n < 0x10000 then '\\' :: 'u' :: hex4 n
  else
    let above := n - 0x10000
    '\\' :: 'u' :: (hex4 (0xd800 + above / 0x400) ++
      '\\' :: 'u' :: hex4 (0xdc00 + above % 0x400))

/-- A code point inside a string literal. -/
def writePoint (ascii : Bool) (n : Nat) : List Char :=
  if n = 0x22 then ['\\', '\x22']
  else if n = 0x5c then ['\\', '\\']
  else if n = 0x0a then ['\\', 'n']
  else if n = 0x0d then ['\\', 'r']
  else if n = 0x09 then ['\\', 't']
  else if n = 0x08 then ['\\', 'b']
  else if n = 0x0c then ['\\', 'f']
  else if n < 0x20 then unicodeEscape n
  else if ascii && 0x7e < n then unicodeEscape n
  else Text.ofPoint n

/-- A string literal. -/
def writeString (ascii : Bool) (text : String) : List Char :=
  '\x22' :: ((Text.points text.toList).flatMap (writePoint ascii) ++ ['\x22'])

/-! ## Values -/

/-- A number. -/
def writeNumber (layout : DecimalLayout) : Number → List Char
  | .int n => Location.intDigits n
  | .float x => layout.text x

mutual

/-- The text of a value. -/
def write (style : TextStyle) : Json → List Char
  | .null => ['n', 'u', 'l', 'l']
  | .bool true => ['t', 'r', 'u', 'e']
  | .bool false => ['f', 'a', 'l', 's', 'e']
  | .num n => writeNumber style.layout n
  | .str s => writeString style.ascii s
  | .arr items => '[' :: (writeItems style items ++ [']'])
  | .obj members => '\x7b' :: (writeMembers style members ++ ['\x7d'])

/-- The items of a list, separated. -/
def writeItems (style : TextStyle) : List Json → List Char
  | [] => []
  | [item] => write style item
  | item :: rest => write style item ++ style.comma ++ writeItems style rest

/-- The members of an object, separated. -/
def writeMembers (style : TextStyle) : List (String × Json) → List Char
  | [] => []
  | [(key, value)] => writeString style.ascii key ++ style.colon ++ write style value
  | (key, value) :: rest =>
    writeString style.ascii key ++ style.colon ++ write style value ++ style.comma ++
      writeMembers style rest

end

/-- The form of spaced JSON text. -/
def text (value : Json) : String := String.ofList (value.write .spaced)

/-- The form of spaced JSON text in ASCII alone. -/
def asciiText (value : Json) : String := String.ofList (value.write .spacedAscii)

/-- A compact JSON document. -/
def compactText (value : Json) : String := String.ofList (value.write .compact)

/-! ## Numbers that are too long -/

mutual

/-- The numbers in a value, in the order in which they are written. -/
def numbers : Json → List Number
  | .num n => [n]
  | .arr items => numbersInItems items
  | .obj members => numbersInMembers members
  | _ => []

/-- The numbers in the items of a list. -/
def numbersInItems : List Json → List Number
  | [] => []
  | item :: rest => numbers item ++ numbersInItems rest

/-- The numbers in the values of members. -/
def numbersInMembers : List (String × Json) → List Number
  | [] => []
  | (_, value) :: rest => numbers value ++ numbersInMembers rest

end

/-- Whether a number can be written: a whole one may not have too many digits. -/
def isShortNumber : Number → Bool
  | .int n => Text.isShortNumber n
  | .float _ => true

/-- Whether no number in a value has too many digits to be written. -/
def isShort (value : Json) : Bool := value.numbers.all isShortNumber

/-- A value in a written form, unless a number in it has too many digits. -/
def spelled (form : Json → String) (value : Json) : Except LongNumber String :=
  if value.isShort then .ok (form value) else .error {}

/-! ## Numbers that are not finite -/

mutual

/-- The value a compact document stands for: numbers that are not finite have become null. -/
def finiteOnly : Json → Json
  | .num (.float x) => if x.isFinite then .float x else .null
  | .arr items => .arr (finiteOnlyItems items)
  | .obj members => .obj (finiteOnlyMembers members)
  | value => value

/-- `finiteOnly` on every item. -/
def finiteOnlyItems : List Json → List Json
  | [] => []
  | item :: rest => finiteOnly item :: finiteOnlyItems rest

/-- `finiteOnly` on every member. -/
def finiteOnlyMembers : List (String × Json) → List (String × Json)
  | [] => []
  | (key, value) :: rest => (key, finiteOnly value) :: finiteOnlyMembers rest

end

mutual

/-- Whether all numbers in a value are finite. -/
def isFinite : Json → Bool
  | .num (.float x) => x.isFinite
  | .arr items => isFiniteItems items
  | .obj members => isFiniteMembers members
  | _ => true

/-- `isFinite` of every item. -/
def isFiniteItems : List Json → Bool
  | [] => true
  | item :: rest => isFinite item && isFiniteItems rest

/-- `isFinite` of every member. -/
def isFiniteMembers : List (String × Json) → Bool
  | [] => true
  | (_, value) :: rest => isFinite value && isFiniteMembers rest

end

/-! ## Surrogates -/

mutual

/-- Whether no surrogate stands alone in the texts of a value. -/
def isPaired : Json → Bool
  | .str s => Text.isPaired s
  | .arr items => isPairedItems items
  | .obj members => isPairedMembers members
  | _ => true

/-- `isPaired` of every item. -/
def isPairedItems : List Json → Bool
  | [] => true
  | item :: rest => isPaired item && isPairedItems rest

/-- `isPaired` of every member and its key. -/
def isPairedMembers : List (String × Json) → Bool
  | [] => true
  | (key, value) :: rest => Text.isPaired key && isPaired value && isPairedMembers rest

end

mutual

/-- The keys in a value, in the order in which they are written. -/
def allKeys : Json → List String
  | .arr items => allKeysInItems items
  | .obj members => allKeysInMembers members
  | _ => []

/-- The keys in the items of a list. -/
def allKeysInItems : List Json → List String
  | [] => []
  | item :: rest => allKeys item ++ allKeysInItems rest

/-- The keys of members, and those in their values. -/
def allKeysInMembers : List (String × Json) → List String
  | [] => []
  | (key, value) :: rest => key :: (allKeys value ++ allKeysInMembers rest)

end

/-- What is said about the first key in a value that cannot be encoded. -/
def unencodableKey? (value : Json) : Option String :=
  value.allKeys.findSome? fun key => Text.unencodable? key.toList

end Json

end CallPlan
