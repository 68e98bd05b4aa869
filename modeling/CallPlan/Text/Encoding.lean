import CallPlan.Text.Surrogate

/-!
# CallPlan.Text.Encoding

The encodings a document may be sent in.

* A byte order mark at the start of a document names its encoding. Without one a document is text in
  UTF-8 unless its first bytes show something else: the first two characters of a document are ASCII,
  so zero bytes among them tell the width of a code unit and the order of its bytes.
* Surrogates may stand alone, in UTF-8 as the three bytes that a code point of their size would have.
  Bytes that are left over at the end, that form no character, or that are beyond all code points
  cannot be decoded; the first of them are the fault of the document.
-/

namespace CallPlan

namespace Text

/-- An encoding of documents. -/
inductive Encoding where
  | utf8
  | utf16 (bigEndian : Bool)
  | utf32 (bigEndian : Bool)
  deriving DecidableEq, Inhabited

/-- Bytes that cannot be decoded: the first and the last of them by position, and what is wrong. -/
structure DecodeFault where
  encoding : Encoding
  first : Nat
  last : Nat
  /-- The first of the bytes. -/
  byte : Nat
  reason : String
  deriving DecidableEq, Inhabited

/-! ## Characters in UTF-8 -/

namespace Utf8

/-- Whether a byte continues a character. -/
def isContinuation (byte : Nat) : Bool := 0x80 ≤ byte && byte < 0xc0

/-- How many bytes follow the first byte of a character; some bytes are the first of none. -/
def following? (lead : Nat) : Option Nat :=
  if lead < 0x80 then some 0
  else if lead < 0xc2 then none
  else if lead < 0xe0 then some 1
  else if lead < 0xf0 then some 2
  else if lead < 0xf5 then some 3
  else none

/-- Whether a byte may follow the first byte of a character: no character has more bytes than it
needs, and none is beyond the last code point. -/
def maySecond (lead second : Nat) : Bool :=
  isContinuation second &&
    if lead = 0xe0 then 0xa0 ≤ second
    else if lead = 0xf0 then 0x90 ≤ second
    else if lead = 0xf4 then second < 0x90
    else true

/-- How many bytes behind the first byte of a character belong to it. -/
def held (lead : Nat) : List Nat → Nat
  | [] => 0
  | second :: rest =>
    if maySecond lead second then 1 + (rest.takeWhile isContinuation).length else 0

/-- Whether a character begins like a surrogate. -/
def beginsSurrogate (lead : Nat) : List Nat → Bool
  | [] => false
  | second :: _ => lead = 0xed && 0xa0 ≤ second

/-- The code point of a character that starts with one of the bytes that `count` others follow. -/
def point (lead count : Nat) (following : List Nat) : Nat :=
  let start := if count = 0 then lead else lead % Nat.pow 2 (6 - count)
  following.foldl (fun n byte => n * 0x40 + byte % 0x40) start

/-- The character that starts with a byte: its code point, and how many bytes follow the first. Or
how many bytes are at fault behind the first, and what is wrong; no part of a surrogate is taken for
the beginning of a character. -/
def character (lead : Nat) (rest : List Nat) : Except (Nat × String) (Nat × Nat) :=
  match following? lead with
  | none => .error (0, "invalid start byte")
  | some count =>
    let next := rest.take count
    let good := held lead next
    if good = count then .ok (point lead count next, count)
    else if beginsSurrogate lead next then .error (0, "invalid continuation byte")
    else if good = rest.length then .error (good, "unexpected end of data")
    else .error (good, "invalid continuation byte")

end Utf8

/-! ## Documents -/

namespace Encoding

/-- The name of an encoding. -/
def name : Encoding → String
  | .utf8 => "utf-8"
  | .utf16 bigEndian => "utf-16-" ++ if bigEndian then "be" else "le"
  | .utf32 bigEndian => "utf-32-" ++ if bigEndian then "be" else "le"

/-- The byte order marks, and the encodings that they name. -/
def marks : List (List Nat × Encoding) :=
  [([0, 0, 0xfe, 0xff], .utf32 true), ([0xff, 0xfe, 0, 0], .utf32 false),
    ([0xfe, 0xff], .utf16 true), ([0xff, 0xfe], .utf16 false), ([0xef, 0xbb, 0xbf], .utf8)]

/-- The encoding that the zeros among the first bytes of a document show. -/
def ofZeros : List Nat → Encoding
  | [a, b] => if a = 0 then .utf16 true else if b = 0 then .utf16 false else .utf8
  | a :: b :: c :: d :: _ =>
    if a = 0 then (if b = 0 then .utf32 true else .utf16 true)
    else if b = 0 then (if c = 0 && d = 0 then .utf32 false else .utf16 false)
    else .utf8
  | _ => .utf8

/-- The characters of a document in UTF-8, whose bytes start at a position; the first `skip` of them
belong to a character that has been read. -/
def chars8 (skip position : Nat) : List Nat → Except DecodeFault (List Char)
  | [] => .ok []
  | byte :: rest =>
    match skip with
    | skip + 1 => chars8 skip (position + 1) rest
    | 0 =>
      match Utf8.character byte rest with
      | .ok (point, following) => do
        let cs ← chars8 following (position + 1) rest
        return ofPoint point ++ cs
      | .error (more, reason) => .error ⟨.utf8, position, position + more, byte, reason⟩

/-- The code units of a document in UTF-16, whose bytes start at a position. -/
def units16 (bigEndian : Bool) (position : Nat) : List Nat → Except DecodeFault (List Nat)
  | a :: b :: rest => do
    let units ← units16 bigEndian (position + 2) rest
    return (if bigEndian then a * 256 + b else b * 256 + a) :: units
  | [a] => .error ⟨.utf16 bigEndian, position, position, a, "truncated data"⟩
  | [] => .ok []

/-- The characters of a document in UTF-32, whose bytes start at a position. -/
def chars32 (bigEndian : Bool) (position : Nat) : List Nat → Except DecodeFault (List Char)
  | a :: b :: c :: d :: rest => do
    let n :=
      if bigEndian then ((a * 256 + b) * 256 + c) * 256 + d
      else ((d * 256 + c) * 256 + b) * 256 + a
    if 0x10ffff < n then
      throw ⟨.utf32 bigEndian, position, position + 3, a, "code point not in range(0x110000)"⟩
    let cs ← chars32 bigEndian (position + 4) rest
    return ofPoint n ++ cs
  | [] => .ok []
  | a :: rest => .error ⟨.utf32 bigEndian, position, position + rest.length, a, "truncated data"⟩

/-- The characters of a document in an encoding, whose bytes start at a position. -/
def decode (position : Nat) (bytes : List Nat) : Encoding → Except DecodeFault (List Char)
  | .utf8 => chars8 0 position bytes
  | .utf16 bigEndian => (units16 bigEndian position bytes).map ofUnits
  | .utf32 bigEndian => chars32 bigEndian position bytes

/-- The characters of a document. The mark before them counts where the position of bytes is told,
except in UTF-8. -/
def decodeDocument (bytes : List Nat) : Except DecodeFault (List Char) :=
  match marks.find? fun (mark, _) => mark.isPrefixOf bytes with
  | some (mark, .utf8) => decode 0 (bytes.drop mark.length) .utf8
  | some (mark, encoding) => decode mark.length (bytes.drop mark.length) encoding
  | none => decode 0 bytes (ofZeros bytes)

end Encoding

/-- The characters of a document that was sent as bytes. -/
def ofSent (bytes : List UInt8) : Except DecodeFault (List Char) :=
  Encoding.decodeDocument (bytes.map UInt8.toNat)

/-- The bytes of a text in UTF-8. -/
def utf8 (text : String) : List UInt8 := (String.ofList (chars text.toList)).toUTF8.toList

namespace DecodeFault

/-- What is said about bytes that cannot be decoded. -/
def message (fault : DecodeFault) : String :=
  let digits := Nat.toDigits 16 fault.byte
  let place :=
    if fault.first = fault.last then
      "byte 0x" ++ String.ofList (List.replicate (2 - digits.length) '0' ++ digits) ++
        " in position " ++ toString fault.first
    else "bytes in position " ++ toString fault.first ++ "-" ++ toString fault.last
  "'" ++ fault.encoding.name ++ "' codec can't decode " ++ place ++ ": " ++ fault.reason

end DecodeFault

/-- The hexadecimal digits of a number, with zeros before them up to a width. -/
def hexDigits (width n : Nat) : List Char :=
  let digits := Nat.toDigits 16 n
  List.replicate (width - digits.length) '0' ++ digits

/-- The escape that names a code point beyond ASCII. -/
def pointEscape (n : Nat) : List Char :=
  '\\' :: if n < 0x100 then 'x' :: hexDigits 2 n
    else if n < 0x10000 then 'u' :: hexDigits 4 n
    else 'U' :: hexDigits 8 n

/-- What is said about the first code points in a row that an encoding lacks. -/
def lacking? (encoding reason : String) (lacks : Nat → Bool) (cs : List Char) : Option String :=
  let ns := points cs
  match ns.findIdx? lacks with
  | none => none
  | some first =>
    let found := (ns.drop first).takeWhile lacks
    let place := match found with
      | [n] =>
        "character '" ++ String.ofList (pointEscape n) ++ "' in position " ++ toString first
      | _ =>
        "characters in position " ++ toString first ++ "-" ++ toString (first + found.length - 1)
    some ("'" ++ encoding ++ "' codec can't encode " ++ place ++ ": " ++ reason)

/-- What is said about surrogates that stand alone: they cannot be encoded. -/
def unencodable? (cs : List Char) : Option String :=
  lacking? "utf-8" "surrogates not allowed" isSurrogate cs

/-- What is said about characters beyond ASCII where only ASCII may stand. -/
def notAscii? (cs : List Char) : Option String :=
  lacking? "ascii" "ordinal not in range(128)" (0x80 ≤ ·) cs

end Text

end CallPlan
