import CallPlan.Json.Printer
import CallPlan.Proofs.Json.Grammar

/-!
# CallPlan.Proofs.Json.Printing

What is written of a readable value is one of its texts, in every style that writes a comma and a
colon with blanks behind them (`isText_write`). So it is a document (`document_of_written`).
-/

namespace CallPlan

namespace Json

/-! ## Strings -/

theorem hexDigits_succ {width : Nat} (some : 0 < width) (n : Nat) :
    Text.hexDigits (width + 1) n = Text.hexDigits width (n / 16) ++ [(n % 16).digitChar] := by
  unfold Text.hexDigits
  rw [Nat.toDigits_eq_if (by decide)]
  split
  next small =>
    rw [Nat.div_eq_of_lt small, Nat.mod_eq_of_lt small]
    obtain ⟨width, rfl⟩ : ∃ w, width = w + 1 := ⟨width - 1, by omega⟩
    simp [List.replicate_succ']
  next =>
    dsimp only
    rw [List.length_append, List.length_singleton, Nat.add_sub_add_right, List.append_assoc]

theorem hexValue?_digitChar {d : Nat} (h : d < 16) : Token.hexValue? d.digitChar = some d := by
  have all : ∀ d < 16, Token.hexValue? d.digitChar = some d := by decide
  exact all d h

/-- The four digits of a code unit name it. -/
theorem exists_hex4 {n : Nat} (h : n < 0x10000) :
    ∃ a b c d, hex4 n = [a, b, c, d] ∧ Token.hexUnit? a b c d = some n := by
  have last : Text.hexDigits 1 (n / 16 / 16 / 16) = [(n / 16 / 16 / 16).digitChar] := by
    rw [Text.hexDigits, Nat.toDigits_of_lt_base (by omega)]
    rfl
  have digits : hex4 n = [(n / 16 / 16 / 16).digitChar, (n / 16 / 16 % 16).digitChar,
      (n / 16 % 16).digitChar, (n % 16).digitChar] := by
    rw [hex4, hexDigits_succ (by decide), hexDigits_succ (by decide), hexDigits_succ (by decide),
      last]
    rfl
  have first : n / 16 / 16 / 16 < 16 := by omega
  refine ⟨_, _, _, _, digits, ?_⟩
  simp only [Token.hexUnit?, hexValue?_digitChar first,
    hexValue?_digitChar (Nat.mod_lt _ (by decide : 0 < 16)), Option.bind_eq_bind, Option.bind_some,
    Option.pure_def, Option.some.injEq]
  omega

/-- An escape names its code point. -/
theorem StringBody.unicodeEscape {ns : List Nat} {cs : List Char} (c : Char)
    (rest : StringBody ns cs) : StringBody (c.toNat :: ns) (unicodeEscape c.toNat ++ cs) := by
  have valid : c.toNat < 0x110000 := by
    have range : c.toNat < 0xd800 ∨ 0xdfff < c.toNat ∧ c.toNat < 0x110000 := c.valid
    omega
  unfold Json.unicodeEscape
  split
  next small =>
    obtain ⟨a, b, d, e, digits, named⟩ := exists_hex4 small
    rw [digits]
    refine .unit named (fun high => ?_) rest
    have own := Text.isSurrogate_toNat c
    simp [Text.isSurrogate, high] at own
  next large =>
    obtain ⟨above, c_eq⟩ : ∃ above, c.toNat = 0x10000 + above := ⟨c.toNat - 0x10000, by omega⟩
    obtain ⟨a, b, d, e, digits, named⟩ :=
      exists_hex4 (show 0xd800 + above / 0x400 < 0x10000 by omega)
    obtain ⟨a', b', d', e', digits', named'⟩ :=
      exists_hex4 (show 0xdc00 + above % 0x400 < 0x10000 by omega)
    have high : Text.isHighSurrogate (0xd800 + above / 0x400) = Bool.true := by
      simp [Text.isHighSurrogate]
      omega
    have low : Text.isLowSurrogate (0xdc00 + above % 0x400) = Bool.true := by
      simp [Text.isLowSurrogate]
      omega
    have joined : c.toNat = 0x10000 + (0xd800 + above / 0x400 - 0xd800) * 0x400
        + (0xdc00 + above % 0x400 - 0xdc00) := by omega
    have escape := StringBody.pair named high named' low rest
    rw [← joined] at escape
    have above_eq : c.toNat - 0x10000 = above := by omega
    simp only [above_eq, digits, digits']
    exact escape

theorem StringBody.writePoint {ns : List Nat} {cs : List Char} (ascii : Bool) (c : Char)
    (rest : StringBody ns cs) : StringBody (c.toNat :: ns) (writePoint ascii c.toNat ++ cs) := by
  unfold Json.writePoint
  split
  next h => exact h ▸ .short rfl rest
  split
  next h => exact h ▸ .short rfl rest
  split
  next h => exact h ▸ .short rfl rest
  split
  next h => exact h ▸ .short rfl rest
  split
  next h => exact h ▸ .short rfl rest
  split
  next h => exact h ▸ .short rfl rest
  split
  next h => exact h ▸ .short rfl rest
  split
  next => exact .unicodeEscape c rest
  split
  next => exact .unicodeEscape c rest
  next noQuote noBackslash _ _ _ _ _ large _ =>
    rw [Text.ofPoint_toNat]
    refine .char ⟨?_, ?_, by omega⟩ rest
    · rintro rfl
      exact noQuote rfl
    · rintro rfl
      exact noBackslash rfl

/-- A string of characters is written as one of its texts. -/
theorem stringText_writeString {s : String} (own : Text.OfCharacters s.toList) (ascii : Bool) :
    StringText s (writeString ascii s) := by
  obtain ⟨cs, text_eq⟩ := own
  have body : ∀ cs : List Char,
      StringBody (cs.map Char.toNat) ((cs.map Char.toNat).flatMap (writePoint ascii)) := by
    intro cs
    induction cs with
    | nil => exact .nil
    | cons c rest ih => exact .writePoint ascii c ih
  have text := StringText.quoted (body cs)
  rw [Text.ofPoints_map_toNat, ← text_eq, String.ofList_toList] at text
  rw [writeString, text_eq, Text.points_ofChars]
  exact text

/-! ## Values -/

/-- A style that separates items by a comma, and keys from values by a colon, with blanks behind
it. -/
def Separates (style : TextStyle) : Prop :=
  (∃ bs, Blank bs ∧ style.comma = ',' :: bs) ∧ ∃ bs, Blank bs ∧ style.colon = ':' :: bs

section
variable {style : TextStyle}

theorem itemsText_writeItems (separates : Separates style) {item : Json} {rest : List Json}
    (each : ∀ v ∈ item :: rest, IsText v (v.write style)) :
    ItemsText (item :: rest) (writeItems style (item :: rest)) := by
  obtain ⟨bs, blank, comma⟩ := separates.1
  induction rest generalizing item with
  | nil => exact .last (each item List.mem_cons_self).document
  | cons next rest ih =>
      have others := ih fun v member => each v (List.mem_cons_of_mem _ member)
      have text := (each item List.mem_cons_self).document
      rw [writeItems, comma, List.append_assoc]
      · exact .more text (others.behind blank)
      · exact List.cons_ne_nil _ _

theorem membersText_writeMembers (separates : Separates style) {member : String × Json}
    {rest : Members} (names : ∀ m ∈ member :: rest, Text.OfCharacters m.1.toList)
    (each : ∀ m ∈ member :: rest, IsText m.2 (m.2.write style)) :
    MembersText (member :: rest) (writeMembers style (member :: rest)) := by
  obtain ⟨bs, blank, comma⟩ := separates.1
  obtain ⟨bs', blank', colon⟩ := separates.2
  induction rest generalizing member with
  | nil =>
      have name := stringText_writeString (names member List.mem_cons_self) style.ascii
      have text := (each member List.mem_cons_self).document.behind blank'
      rw [writeMembers, colon, List.append_assoc]
      exact .last name.key text
  | cons next rest ih =>
      have name := stringText_writeString (names member List.mem_cons_self) style.ascii
      have text := (each member List.mem_cons_self).document.behind blank'
      have others := ih (fun m inside => names m (List.mem_cons_of_mem _ inside))
        fun m inside => each m (List.mem_cons_of_mem _ inside)
      rw [writeMembers, comma, colon]
      · have whole := MembersText.more name.key text (others.behind blank)
        simpa only [List.append_assoc, List.cons_append] using whole
      · exact List.cons_ne_nil _ _

/-- What is written of a readable value is one of its texts. -/
theorem isText_write (separates : Separates style) {value : Json} (h : value.Readable) :
    IsText value (value.write style) := by
  induction h with
  | null => exact .null
  | bool b => cases b with
    | true => exact .true
    | false => exact .false
  | int short => exact .num (.int _)
  | str own => exact .str (stringText_writeString own _)
  | @arr items each ih =>
      rw [write]
      cases items with
      | nil => exact .noItems .nil
      | cons item rest => exact .arr (itemsText_writeItems separates ih)
  | @obj members distinct names each ih =>
      rw [write]
      cases members with
      | nil => exact .noMembers .nil
      | cons member rest => exact .obj (membersText_writeMembers separates names ih)

end

/-- The styles in which values are written. -/
def written : List TextStyle := [.spaced, .spacedAscii, .compact]

theorem separates_of_written : ∀ style ∈ written, Separates style := by
  have spaced : Separates .spaced := by
    have blank : Blank [' '] := by simp [Blank, Token.isSpace]
    exact ⟨⟨[' '], blank, rfl⟩, ⟨[' '], blank, rfl⟩⟩
  have compact : Separates .compact := ⟨⟨[], .nil, rfl⟩, ⟨[], .nil, rfl⟩⟩
  simp only [written, List.forall_mem_cons]
  exact ⟨spaced, spaced, compact, nofun⟩

/-- A readable value is written as a document. -/
theorem document_of_written {style : TextStyle} (isWritten : style ∈ written) {value : Json}
    (h : value.Readable) : Document value (String.ofList (value.write style)).toList := by
  rw [String.toList_ofList]
  exact (isText_write (separates_of_written style isWritten) h).document

end Json

end CallPlan
