/-!
# CallPlan.Http.Percent

Percent escapes: a character that may not stand in a part of an address is written as the bytes of
its UTF-8 form, each as a percent sign and two hexadecimal digits. Escapes that are there already
stay as they are.
-/

namespace CallPlan

namespace Percent

/-- The value of a hexadecimal digit. -/
def hexValue? (c : Char) : Option Nat :=
  if '0' ≤ c && c ≤ '9' then some (c.toNat - 48)
  else if 'a' ≤ c && c ≤ 'f' then some (c.toNat - 87)
  else if 'A' ≤ c && c ≤ 'F' then some (c.toNat - 55)
  else none

/-- A hexadecimal digit. -/
def hexDigit (n : Nat) : Char := Char.ofNat (if n < 10 then n + 48 else n + 55)

/-- The escape of a character. -/
def escape (c : Char) : List Char :=
  (String.utf8EncodeChar c).flatMap fun byte =>
    ['%', hexDigit (byte.toNat / 16), hexDigit (byte.toNat % 16)]

/-- The characters that need no escape anywhere. -/
def isUnreserved (c : Char) : Bool :=
  ('a' ≤ c && c ≤ 'z') || ('A' ≤ c && c ≤ 'Z') || ('0' ≤ c && c ≤ '9') ||
    c = '-' || c = '.' || c = '_' || c = '~'

/-- A text with an escape for every character that is neither unreserved nor safe in its place. -/
def quote (safe : Char → Bool) : List Char → List Char
  | [] => []
  | c :: rest =>
    let one := if isUnreserved c || safe c then [c] else escape c
    match c, rest with
    | '%', a :: b :: tail =>
      if (hexValue? a).isSome && (hexValue? b).isSome then '%' :: a :: b :: quote safe tail
      else one ++ quote safe (a :: b :: tail)
    | _, rest => one ++ quote safe rest

/-- The bytes of a text, with the byte that it stands for in place of an escape. -/
def bytes : List Char → List Nat
  | [] => []
  | c :: rest =>
    let one := (String.utf8EncodeChar c).map UInt8.toNat
    match c, rest with
    | '%', a :: b :: tail =>
      match hexValue? a, hexValue? b with
      | some high, some low => (high * 16 + low) :: bytes tail
      | _, _ => one ++ bytes (a :: b :: tail)
    | _, rest => one ++ bytes rest

/-- A text with the characters that its escapes stand for. Bytes beyond ASCII that form no text
together are each replaced. -/
def unquote (cs : List Char) : List Char :=
  let all := bytes cs
  match String.fromUTF8? ⟨(all.map UInt8.ofNat).toArray⟩ with
  | some s => s.toList
  | none => all.map fun byte => if byte < 0x80 then Char.ofNat byte else '\ufffd'

end Percent

end CallPlan
