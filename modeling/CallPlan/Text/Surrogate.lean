/-!
# CallPlan.Text.Surrogate

Code points, of which surrogates are some.

The escapes of JSON text name code units. Two of them that form a surrogate pair are one character;
one without the other is no character at all, but some readers let it pass, and writers show it as
the escape that it came from. A text keeps it as a character for private use, `0xf0000` above it. A
character that would be taken for a kept surrogate, and the one that marks them, stand behind that
mark. So every list of code points has a text (`ofPoints`), and is read off it again (`points`).
-/

namespace CallPlan

namespace Text

/-- Whether a code unit is the first of a surrogate pair. -/
def isHighSurrogate (n : Nat) : Bool := 0xd800 ≤ n && n < 0xdc00

/-- Whether a code unit is the second of a surrogate pair. -/
def isLowSurrogate (n : Nat) : Bool := 0xdc00 ≤ n && n < 0xe000

/-- Whether a code point is a surrogate. -/
def isSurrogate (n : Nat) : Bool := isHighSurrogate n || isLowSurrogate n

/-- The character that keeps a surrogate that stands alone. -/
def loneSurrogate (unit : Nat) : Char := Char.ofNat (0xf0000 + unit)

/-- The surrogate that a character keeps. -/
def surrogate? (c : Char) : Option Nat :=
  let unit := c.toNat - 0xf0000
  if isSurrogate unit then some unit else none

/-- The mark before a character that stands for itself alone. -/
def mark : Char := Char.ofNat 0x10ffff

/-- A character of a text. -/
def ofChar (c : Char) : List Char :=
  if (surrogate? c).isSome || c = mark then [mark, c] else [c]

/-- The text of characters. -/
def ofChars (cs : List Char) : List Char := cs.flatMap ofChar

/-- A code point of a text. -/
def ofPoint (n : Nat) : List Char :=
  if isSurrogate n then [loneSurrogate n] else ofChar (Char.ofNat n)

/-- The text of code points. -/
def ofPoints (ns : List Nat) : List Char := ns.flatMap ofPoint

/-- The code points of a text, the first of which may stand behind a mark. -/
def pointsFrom (marked : Bool) : List Char → List Nat
  | [] => if marked then [mark.toNat] else []
  | c :: rest =>
    if marked then c.toNat :: pointsFrom false rest
    else if c = mark then pointsFrom true rest
    else (surrogate? c).getD c.toNat :: pointsFrom false rest

/-- The code points of a text. -/
def points (cs : List Char) : List Nat := pointsFrom false cs

/-- The characters of a text without surrogates. -/
def chars (cs : List Char) : List Char := (points cs).map Char.ofNat

/-- How many code points a text has. -/
def length (s : String) : Nat := (points s.toList).length

/-- The first code points of a text. -/
def first (count : Nat) (s : String) : String :=
  String.ofList (ofPoints ((points s.toList).take count))

/-- The text of a list of code units: surrogate pairs are joined. A unit beyond the basic plane is a
character of a text as it is. -/
def ofUnits : List Nat → List Char
  | [] => []
  | n :: rest =>
    if isHighSurrogate n then
      match rest with
      | m :: rest =>
        if isLowSurrogate m then
          ofPoint (0x10000 + (n - 0xd800) * 0x400 + (m - 0xdc00)) ++ ofUnits rest
        else loneSurrogate n :: ofUnits (m :: rest)
      | [] => [loneSurrogate n]
    else if isLowSurrogate n then loneSurrogate n :: ofUnits rest
    else Char.ofNat n :: ofUnits rest

/-- Whether every surrogate of a list of code units is one of a pair. -/
def unitsPaired : List Nat → Bool
  | [] => true
  | n :: rest =>
    if isHighSurrogate n then
      match rest with
      | m :: rest => isLowSurrogate m && unitsPaired rest
      | [] => false
    else !isLowSurrogate n && unitsPaired rest

/-- Whether no surrogate stands alone in a text. -/
def isPaired (s : String) : Bool := !(points s.toList).any isSurrogate

/-- A kept surrogate is read back as itself. -/
theorem surrogate?_loneSurrogate {unit : Nat} (h : isSurrogate unit = true) :
    surrogate? (loneSurrogate unit) = some unit := by
  have bounds : 0xd800 ≤ unit ∧ unit < 0xe000 := by
    simp only [isSurrogate, isHighSurrogate, isLowSurrogate, Bool.or_eq_true, Bool.and_eq_true,
      decide_eq_true_eq] at h
    omega
  have valid : (0xf0000 + unit).isValidChar := Or.inr ⟨by omega, by omega⟩
  have back : (loneSurrogate unit).toNat = 0xf0000 + unit := by
    unfold loneSurrogate Char.ofNat
    rw [dif_pos valid]
    unfold Char.ofNatAux Char.toNat
    simp
    omega
  simp [surrogate?, back, h]

/-- The code points of a text that starts with a character are those of the rest behind it. -/
theorem points_ofChar_append (c : Char) (rest : List Char) :
    points (ofChar c ++ rest) = c.toNat :: points rest := by
  unfold ofChar
  split
  · simp [points, pointsFrom]
  · next h =>
    simp only [Bool.or_eq_true, decide_eq_true_eq, not_or, Bool.not_eq_true,
      Option.isSome_eq_false_iff, Option.isNone_iff_eq_none] at h
    simp [points, pointsFrom, h.1, h.2]

/-- Characters are read back from their text. -/
theorem points_ofChars (cs : List Char) : points (ofChars cs) = cs.map Char.toNat := by
  induction cs with
  | nil => rfl
  | cons c rest ih =>
    have step : ofChars (c :: rest) = ofChar c ++ ofChars rest := rfl
    rw [step, points_ofChar_append, ih, List.map_cons]

end Text

end CallPlan
