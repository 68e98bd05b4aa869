import CallPlan.Json.Location
import CallPlan.Json.Token
import CallPlan.Proofs.Text.Characters

/-!
# CallPlan.Proofs.Json.Grammar

The texts of JSON values.

* `IsText v cs` says that `cs` is a text of the value `v`: blanks may stand around every token, each
  character of a string is written as it is, by a short escape, or by its code units, and numbers are
  written in decimal digits. A value has many texts; a `Document` has blanks around one of them.
* `Readable` values are those that every reader takes: without double-precision numbers, with
  distinct keys and strings of characters, and with no more digits than are converted.
-/

namespace CallPlan

namespace Json

/-! ## Texts -/

/-- Blanks, as they may stand between tokens. -/
def Blank (cs : List Char) : Prop := ∀ c ∈ cs, Token.isSpace c = true

/-- Whether a character of a string may be written as it is. -/
def Bare (c : Char) : Prop := c ≠ '\x22' ∧ c ≠ '\\' ∧ 0x20 ≤ c.toNat

/-- What stands between the quotes of a string with these code points. -/
inductive StringBody : List Nat → List Char → Prop where
  | nil : StringBody [] []
  | char {c : Char} {ns : List Nat} {cs : List Char} (bare : Bare c) (rest : StringBody ns cs) :
      StringBody (c.toNat :: ns) (Text.ofChar c ++ cs)
  | short {e : Char} {n : Nat} {ns : List Nat} {cs : List Char}
      (named : Token.shortEscape? e = some n) (rest : StringBody ns cs) :
      StringBody (n :: ns) ('\\' :: e :: cs)
  /-- One code unit. If it is the first of a surrogate pair, the second does not follow. -/
  | unit {a b c d : Char} {n : Nat} {ns : List Nat} {cs : List Char}
      (named : Token.hexUnit? a b c d = some n)
      (alone : Text.isHighSurrogate n = true → ∀ m ∈ ns.head?, Text.isLowSurrogate m = false)
      (rest : StringBody ns cs) :
      StringBody (n :: ns) ('\\' :: 'u' :: a :: b :: c :: d :: cs)
  /-- The two code units of a surrogate pair. -/
  | pair {a b c d e f g h : Char} {n m : Nat} {ns : List Nat} {cs : List Char}
      (first : Token.hexUnit? a b c d = some n) (high : Text.isHighSurrogate n = true)
      (second : Token.hexUnit? e f g h = some m) (low : Text.isLowSurrogate m = true)
      (rest : StringBody ns cs) :
      StringBody ((0x10000 + (n - 0xd800) * 0x400 + (m - 0xdc00)) :: ns)
        ('\\' :: 'u' :: a :: b :: c :: d :: '\\' :: 'u' :: e :: f :: g :: h :: cs)

/-- The texts of a string. -/
inductive StringText : String → List Char → Prop where
  | quoted {ns : List Nat} {cs : List Char} (body : StringBody ns cs) :
      StringText (String.ofList (Text.ofPoints ns)) ('\x22' :: (cs ++ ['\x22']))

/-- The texts of a power of ten behind a number. -/
inductive ExponentText : Int → List Char → Prop where
  | none : ExponentText 0 []
  | positive {e : Char} {sign ds : List Char} (mark : e = 'e' ∨ e = 'E')
      (plus : sign = [] ∨ sign = ['+']) (digits : ∀ d ∈ ds, Token.isDigit d = true)
      (some : ds ≠ []) : ExponentText (Nat.ofDigitChars 10 ds 0 : Nat) (e :: (sign ++ ds))
  | negative {e : Char} {ds : List Char} (mark : e = 'e' ∨ e = 'E')
      (digits : ∀ d ∈ ds, Token.isDigit d = true) (some : ds ≠ []) :
      ExponentText (-(Nat.ofDigitChars 10 ds 0 : Nat)) (e :: '-' :: ds)

/-- The texts of a number. -/
inductive NumberText : Number → List Char → Prop where
  | int (n : Int) : NumberText (.int n) (Location.intDigits n)
  | minusZero : NumberText (.int 0) ['-', '0']
  | float {minus fraction exponent : List Char} {power : Int} (whole : Nat)
      (sign : minus = [] ∨ minus = ['-']) (digits : ∀ d ∈ fraction, Token.isDigit d = true)
      (exponentText : ExponentText power exponent) (real : fraction ≠ [] ∨ exponent ≠ []) :
      NumberText
        (.float (Binary64.ofDecimal (minus ≠ [])
          (Nat.ofDigitChars 10 (Nat.toDigits 10 whole ++ fraction) 0) (power - fraction.length)))
        (minus ++ Nat.toDigits 10 whole ++ (if fraction = [] then [] else '.' :: fraction) ++
          exponent)

/-- The texts of a key, with blanks around it. -/
inductive KeyText : String → List Char → Prop where
  | around {key : String} {before cs after : List Char} (blank : Blank before)
      (string : StringText key cs) (blank' : Blank after) : KeyText key (before ++ (cs ++ after))

mutual

/-- The texts of a value. -/
inductive IsText : Json → List Char → Prop where
  | null : IsText .null ['n', 'u', 'l', 'l']
  | true : IsText (.bool true) ['t', 'r', 'u', 'e']
  | false : IsText (.bool false) ['f', 'a', 'l', 's', 'e']
  | num {n : Number} {cs : List Char} (number : NumberText n cs) : IsText (.num n) cs
  | str {s : String} {cs : List Char} (string : StringText s cs) : IsText (.str s) cs
  | noItems {bs : List Char} (blank : Blank bs) : IsText (.arr []) ('[' :: (bs ++ [']']))
  | arr {items : List Json} {cs : List Char} (some : ItemsText items cs) :
      IsText (.arr items) ('[' :: (cs ++ [']']))
  | noMembers {bs : List Char} (blank : Blank bs) : IsText (.obj []) ('\x7b' :: (bs ++ ['\x7d']))
  | obj {members : Members} {cs : List Char} (some : MembersText members cs) :
      IsText (.obj members) ('\x7b' :: (cs ++ ['\x7d']))

/-- The texts of a value, with blanks around it. -/
inductive Document : Json → List Char → Prop where
  | around {value : Json} {before cs after : List Char} (blank : Blank before)
      (text : IsText value cs) (blank' : Blank after) : Document value (before ++ (cs ++ after))

/-- The texts of the items of a list that has some. -/
inductive ItemsText : List Json → List Char → Prop where
  | last {item : Json} {cs : List Char} (text : Document item cs) : ItemsText [item] cs
  | more {item : Json} {rest : List Json} {cs ds : List Char} (text : Document item cs)
      (others : ItemsText rest ds) : ItemsText (item :: rest) (cs ++ ',' :: ds)

/-- The texts of the members of an object that has some. -/
inductive MembersText : List (String × Json) → List Char → Prop where
  | last {key : String} {value : Json} {ks cs : List Char} (name : KeyText key ks)
      (text : Document value cs) : MembersText [(key, value)] (ks ++ ':' :: cs)
  | more {key : String} {value : Json} {rest : List (String × Json)} {ks cs ds : List Char}
      (name : KeyText key ks) (text : Document value cs) (others : MembersText rest ds) :
      MembersText ((key, value) :: rest) (ks ++ ':' :: (cs ++ ',' :: ds))

end

/-! ## Readable values -/

/-- A value without double-precision numbers, whose keys are distinct, whose strings are of
characters, and whose numbers have no more digits than are converted. -/
inductive Readable : Json → Prop where
  | null : Readable .null
  | bool (b : Bool) : Readable (.bool b)
  | int {n : Int} (short : (Nat.toDigits 10 n.natAbs).length ≤ Text.digitLimit) :
      Readable (.num (.int n))
  | str {s : String} (own : Text.OfCharacters s.toList) : Readable (.str s)
  | arr {items : List Json} (each : ∀ item ∈ items, Readable item) : Readable (.arr items)
  | obj {members : Members} (distinct : (Members.keys members).Nodup)
      (names : ∀ member ∈ members, Text.OfCharacters member.1.toList)
      (each : ∀ member ∈ members, Readable member.2) : Readable (.obj members)

/-- An object whose keys are plain words is readable if its values are. -/
theorem Readable.record {fields : Members} (distinct : (Members.keys fields).Nodup)
    (words : ∀ key ∈ Members.keys fields, ∀ c ∈ key.toList, c.toNat < 0xf0000)
    (each : ∀ value ∈ fields.map Prod.snd, value.Readable) :
    (Json.obj fields).Readable :=
  .obj distinct
    (fun _ member => Text.ofCharacters_of_lt (words _ (List.mem_map_of_mem member)))
    fun _ member => each _ (List.mem_map_of_mem member)

mutual

/-- How many lists and objects stand in one another, if those without content count or if they do
not. -/
def levels (countsEmpty : Bool) : Json → Nat
  | .arr [] | .obj [] => countsEmpty.toNat
  | .arr items => itemsLevels countsEmpty items + 1
  | .obj members => membersLevels countsEmpty members + 1
  | _ => 0

/-- The greatest number of levels of the items of a list. -/
def itemsLevels (countsEmpty : Bool) : List Json → Nat
  | [] => 0
  | item :: rest => max (levels countsEmpty item) (itemsLevels countsEmpty rest)

/-- The greatest number of levels of the values of an object. -/
def membersLevels (countsEmpty : Bool) : List (String × Json) → Nat
  | [] => 0
  | (_, value) :: rest => max (levels countsEmpty value) (membersLevels countsEmpty rest)

end

/-- How many lists and objects with content stand in one another. -/
def nesting (value : Json) : Nat := value.levels false

/-! ## Blanks in front -/

section
variable {bs cs : List Char}

theorem Blank.nil : Blank [] := nofun

theorem Blank.append {ds : List Char} (h : Blank cs) (h' : Blank ds) : Blank (cs ++ ds) := by
  intro c member
  rcases List.mem_append.1 member with member | member
  · exact h c member
  · exact h' c member

theorem IsText.document {value : Json} (h : IsText value cs) : Document value cs := by
  have text := Document.around .nil h .nil
  rwa [List.append_nil] at text

theorem StringText.key {key : String} (h : StringText key cs) : KeyText key cs := by
  have name := KeyText.around .nil h .nil
  rwa [List.append_nil] at name

theorem Document.behind {value : Json} (h : Document value cs) (blank : Blank bs) :
    Document value (bs ++ cs) := by
  cases h with
  | around before text after =>
      rw [← List.append_assoc]
      exact .around (blank.append before) text after

theorem KeyText.behind {key : String} (h : KeyText key cs) (blank : Blank bs) :
    KeyText key (bs ++ cs) := by
  cases h with
  | around before string after =>
      rw [← List.append_assoc]
      exact .around (blank.append before) string after

theorem ItemsText.behind {items : List Json} (h : ItemsText items cs) (blank : Blank bs) :
    ItemsText items (bs ++ cs) := by
  cases h with
  | last text => exact .last (text.behind blank)
  | more text others =>
      rw [← List.append_assoc]
      exact .more (text.behind blank) others

theorem MembersText.behind {members : Members} (h : MembersText members cs) (blank : Blank bs) :
    MembersText members (bs ++ cs) := by
  cases h with
  | last name text =>
      rw [← List.append_assoc]
      exact .last (name.behind blank) text
  | more name text others =>
      rw [← List.append_assoc]
      exact .more (name.behind blank) text others

end

end Json

end CallPlan
