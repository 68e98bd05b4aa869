import CallPlan.Proofs.Json.Grammar

/-!
# CallPlan.Proofs.Json.Lexemes

The tokens of the texts of values.

* `Token.lexemes` are the tokens of a text without their places. A text that is one token, whatever
  of some kind follows it, `Scans` as this token.
* The code units of a string are read back as its code points (`exists_stringUnits`), so that every
  text of a string is its token (`scans_string`).
* A whole number is its token if nothing follows by which it goes on (`scans_int`).
-/

namespace CallPlan

open Json

namespace Token

/-! ## Tokens without their places -/

/-- The tokens of a text, of which the first characters are passed over. -/
def lexemes : (skip : Nat) → List Char → List Token
  | _, [] => []
  | skip + 1, _ :: rest => lexemes skip rest
  | 0, c :: rest =>
    if isSpace c then lexemes 0 rest
    else
      match scan c rest with
      | (.fault cause place, _) => [.fault cause place]
      | (token, length) => token :: lexemes (length - 1) rest

theorem map_fst_listFrom (skip offset : Nat) (found : List (Token × Nat)) (cs : List Char) :
    (listFrom skip offset found cs).map Prod.fst
      = (found.map Prod.fst).reverse ++ lexemes skip cs := by
  induction cs generalizing skip offset found with
  | nil => simp [listFrom, lexemes]
  | cons c rest ih =>
      cases skip with
      | succ skip =>
          rw [listFrom, lexemes]
          exact ih _ _ _
      | zero =>
          rw [listFrom, lexemes]
          split
          next => exact ih _ _ _
          next =>
            cases scan c rest with
            | mk token length =>
                cases token with
                | fault cause place => simp
                | _ => simp [ih]

theorem lexemes_length_append (cs rest : List Char) :
    lexemes cs.length (cs ++ rest) = lexemes 0 rest := by
  induction cs with
  | nil => rfl
  | cons c cs ih => exact ih

/-- A text is one token, in front of the rest. -/
def Scans (cs rest : List Char) (token : Token) : Prop :=
  ∃ c others, cs = c :: others ∧ isSpace c = false ∧
    scan c (others ++ rest) = (token, others.length + 1)

theorem lexemes_of_scans {cs rest : List Char} {token : Token} (h : Scans cs rest token)
    (sound : ∀ cause place, token ≠ .fault cause place) :
    lexemes 0 (cs ++ rest) = token :: lexemes 0 rest := by
  obtain ⟨c, others, rfl, noSpace, scans⟩ := h
  rw [List.cons_append, lexemes, noSpace, if_neg Bool.false_ne_true, scans]
  cases token with
  | fault cause place => exact absurd rfl (sound cause place)
  | _ =>
      dsimp only
      rw [Nat.add_sub_cancel, lexemes_length_append]

theorem lexemes_blank {bs : List Char} (blank : Blank bs) (rest : List Char) :
    lexemes 0 (bs ++ rest) = lexemes 0 rest := by
  induction bs with
  | nil => rfl
  | cons b bs ih =>
      have here : isSpace b = true := blank b List.mem_cons_self
      rw [List.cons_append, lexemes, if_pos here]
      exact ih fun c member => blank c (List.mem_cons_of_mem _ member)

/-! ## Strings -/

theorem isHighSurrogate_of_own {n : Nat} (own : Text.isSurrogate n = false) :
    Text.isHighSurrogate n = false ∧ Text.isLowSurrogate n = false :=
  Bool.or_eq_false_iff.1 own

theorem ofUnits_of_own {n : Nat} (own : Text.isSurrogate n = false) (units : List Nat) :
    Text.ofUnits (n :: units) = Char.ofNat n :: Text.ofUnits units := by
  obtain ⟨high, low⟩ := isHighSurrogate_of_own own
  rw [Text.ofUnits.eq_def]
  simp [high, low]

theorem unitsPaired_of_own {n : Nat} (own : Text.isSurrogate n = false) (units : List Nat) :
    Text.unitsPaired (n :: units) = Text.unitsPaired units := by
  obtain ⟨high, low⟩ := isHighSurrogate_of_own own
  rw [Text.unitsPaired.eq_def]
  simp [high, low]

/-- Characters are code units of their own. -/
theorem ofUnits_map_toNat (cs : List Char) (units : List Nat) :
    Text.ofUnits (cs.map Char.toNat ++ units) = cs ++ Text.ofUnits units := by
  induction cs with
  | nil => rfl
  | cons c rest ih =>
      rw [List.map_cons, List.cons_append, ofUnits_of_own (Text.isSurrogate_toNat c), ih,
        Char.ofNat_toNat, List.cons_append]

theorem unitsPaired_map_toNat (cs : List Char) (units : List Nat) :
    Text.unitsPaired (cs.map Char.toNat ++ units) = Text.unitsPaired units := by
  induction cs with
  | nil => rfl
  | cons c rest ih =>
      rw [List.map_cons, List.cons_append, unitsPaired_of_own (Text.isSurrogate_toNat c), ih]

theorem exists_ofChar_eq (c : Char) : ∃ first rest, Text.ofChar c = first :: rest := by
  unfold Text.ofChar
  split
  · exact ⟨Text.mark, [c], rfl⟩
  · exact ⟨c, [], rfl⟩

/-- Code units that stand for code points. -/
structure Decodes (units ns : List Nat) : Prop where
  text : Text.ofUnits units = Text.ofPoints ns
  paired : Text.unitsPaired units = !ns.any Text.isSurrogate
  /-- What begins with the second unit of a pair begins with a surrogate that stands alone. -/
  low : ∀ m ∈ units.head?, Text.isLowSurrogate m = true → ns.head? = some m

namespace Decodes

theorem nil : Decodes [] [] := ⟨rfl, rfl, nofun⟩

variable {units ns : List Nat} {n : Nat} (h : Decodes units ns)
include h

theorem char (c : Char) : Decodes ((Text.ofChar c).map Char.toNat ++ units) (c.toNat :: ns) := by
  have step : Text.ofPoints (c.toNat :: ns) = Text.ofPoint c.toNat ++ Text.ofPoints ns := rfl
  refine ⟨?_, ?_, ?_⟩
  · rw [step, Text.ofPoint_toNat, ofUnits_map_toNat, h.text]
  · rw [unitsPaired_map_toNat, h.paired, List.any_cons, Text.isSurrogate_toNat, Bool.false_or]
  · obtain ⟨first, rest, c_eq⟩ := exists_ofChar_eq c
    rw [c_eq]
    rintro m ⟨⟩ low
    rw [(isHighSurrogate_of_own (Text.isSurrogate_toNat first)).2] at low
    cases low

theorem own (small : n < 0xf0000) (own : Text.isSurrogate n = false) :
    Decodes (n :: units) (n :: ns) := by
  have step : Text.ofPoints (n :: ns) = Text.ofPoint n ++ Text.ofPoints ns := rfl
  refine ⟨?_, ?_, ?_⟩
  · rw [step, Text.ofPoint_of_lt small own, ofUnits_of_own own, h.text]
    rfl
  · rw [unitsPaired_of_own own, h.paired, List.any_cons, own, Bool.false_or]
  · rintro m ⟨⟩ low
    rw [(isHighSurrogate_of_own own).2] at low
    cases low

theorem alone (surrogate : Text.isSurrogate n = true)
    (alone : Text.isHighSurrogate n = true → ∀ m ∈ ns.head?, Text.isLowSurrogate m = false) :
    Decodes (n :: units) (n :: ns) := by
  have step : Text.ofPoints (n :: ns) = Text.ofPoint n ++ Text.ofPoints ns := rfl
  have point : Text.ofPoint n = [Text.loneSurrogate n] := by simp [Text.ofPoint, surrogate]
  -- the unit that follows the first of a pair is not the second one
  have follows : Text.isHighSurrogate n = true →
      ∀ m ∈ units.head?, Text.isLowSurrogate m = false := by
    intro high m member
    cases low : Text.isLowSurrogate m with
    | false => rfl
    | true => rw [← low, alone high m (h.low m member low)]
  have text : Text.ofUnits (n :: units) = Text.loneSurrogate n :: Text.ofUnits units ∧
      Text.unitsPaired (n :: units) = false := by
    rw [Text.ofUnits.eq_def, Text.unitsPaired.eq_def]
    cases high : Text.isHighSurrogate n with
    | false =>
        have low : Text.isLowSurrogate n = true := by
          rwa [Text.isSurrogate, high, Bool.false_or] at surrogate
        simp [high, low]
    | true =>
        cases units with
        | nil => simp [high, Text.ofUnits]
        | cons m rest => simp [high, follows high m rfl]
  refine ⟨?_, ?_, ?_⟩
  · rw [step, point, text.1, h.text]
    rfl
  · rw [text.2, List.any_cons, surrogate, Bool.true_or]
    rfl
  · rintro m ⟨⟩ -
    rfl

theorem pair {m : Nat} (high : Text.isHighSurrogate n = true)
    (low : Text.isLowSurrogate m = true) :
    Decodes (n :: m :: units) ((0x10000 + (n - 0xd800) * 0x400 + (m - 0xdc00)) :: ns) := by
  have bounds : 0xd800 ≤ n ∧ n < 0xdc00 := by
    simpa [Text.isHighSurrogate] using high
  have own : Text.isSurrogate (0x10000 + (n - 0xd800) * 0x400 + (m - 0xdc00)) = false := by
    rw [← Bool.not_eq_true, Text.isSurrogate_eq_true_iff]
    omega
  refine ⟨?_, ?_, ?_⟩
  · rw [Text.ofUnits.eq_def]
    simp only [high, low, if_true, h.text]
    rfl
  · rw [Text.unitsPaired.eq_def]
    simp [high, low, h.paired, own]
  · rintro m ⟨⟩ low'
    simp [Text.isLowSurrogate] at low'
    omega

end Decodes

/-- The hexadecimal digits and their values. -/
theorem cases_of_hexValue? {c : Char} {n : Nat} (h : hexValue? c = some n) :
    (48 ≤ c.toNat ∧ c.toNat ≤ 57 ∧ n = c.toNat - 48) ∨
      (97 ≤ c.toNat ∧ c.toNat ≤ 102 ∧ n = c.toNat - 87) ∨
      (65 ≤ c.toNat ∧ c.toNat ≤ 70 ∧ n = c.toNat - 55) := by
  have toNat_le : ∀ d e : Char, d ≤ e → d.toNat ≤ e.toNat := fun d e small => small
  unfold hexValue? isDigit at h
  simp only [Bool.and_eq_true, decide_eq_true_eq] at h
  split at h
  next range =>
    cases h
    exact .inl ⟨toNat_le '0' c range.1, toNat_le c '9' range.2, rfl⟩
  split at h
  next range =>
    cases h
    exact .inr (.inl ⟨toNat_le 'a' c range.1, toNat_le c 'f' range.2, rfl⟩)
  split at h
  next range =>
    cases h
    exact .inr (.inr ⟨toNat_le 'A' c range.1, toNat_le c 'F' range.2, rfl⟩)
  next => cases h

theorem hexValue?_lt {c : Char} {n : Nat} (h : hexValue? c = some n) : n < 16 := by
  rcases cases_of_hexValue? h with ⟨_, _, rfl⟩ | ⟨_, _, rfl⟩ | ⟨_, _, rfl⟩ <;> omega

theorem hexUnit?_lt {a b c d : Char} {n : Nat} (h : hexUnit? a b c d = some n) : n < 0x10000 := by
  simp only [hexUnit?, Option.bind_eq_bind, Option.bind_eq_some_iff, Option.pure_def,
    Option.some.injEq] at h
  obtain ⟨a', first, b', second, c', third, d', fourth, rfl⟩ := h
  have := hexValue?_lt first
  have := hexValue?_lt second
  have := hexValue?_lt third
  have := hexValue?_lt fourth
  omega

theorem mem_of_shortEscape? {e : Char} {n : Nat} (h : shortEscape? e = some n) :
    e ∈ ['\x22', '\\', '/', 'b', 'f', 'n', 'r', 't'] := by
  refine Decidable.byContradiction fun other => ?_
  simp only [List.mem_cons, List.not_mem_nil, or_false, not_or] at other
  simp [shortEscape?, other] at h

theorem shortEscape?_lt {e : Char} {n : Nat} (h : shortEscape? e = some n) :
    n < 0x80 ∧ e ≠ 'u' := by
  have each : ∀ e ∈ ['\x22', '\\', '/', 'b', 'f', 'n', 'r', 't'],
      (∀ n ∈ shortEscape? e, n < 0x80) ∧ e ≠ 'u' := by simp [shortEscape?]
  obtain ⟨small, other⟩ := each e (mem_of_shortEscape? h)
  exact ⟨small n h, other⟩

theorem stringUnits_bare {cs : List Char} (bare : ∀ c ∈ cs, Bare c) (offset : Nat)
    (before : List Nat) (rest : List Char) :
    stringUnits offset before (cs ++ rest)
      = stringUnits (offset + cs.length) ((cs.map Char.toNat).reverse ++ before) rest := by
  induction cs generalizing offset before with
  | nil => rfl
  | cons c cs ih =>
      obtain ⟨noQuote, noBackslash, large⟩ := bare c List.mem_cons_self
      rw [List.cons_append, stringUnits.eq_def]
      simp only [noQuote, noBackslash, if_false, Nat.not_lt.2 large]
      have length : offset + 1 + cs.length = offset + (c :: cs).length := by
        rw [List.length_cons]
        omega
      rw [ih fun d member => bare d (List.mem_cons_of_mem _ member), length, List.map_cons,
        List.reverse_cons, List.append_assoc]
      rfl

theorem stringUnits_short {e : Char} {n : Nat} (named : shortEscape? e = some n) (offset : Nat)
    (before : List Nat) (rest : List Char) :
    stringUnits offset before ('\\' :: e :: rest) = stringUnits (offset + 2) (n :: before) rest := by
  have other := (shortEscape?_lt named).2
  rw [stringUnits.eq_def]
  simp [other, named]

theorem stringUnits_unit {a b c d : Char} {n : Nat} (named : hexUnit? a b c d = some n)
    (offset : Nat) (before : List Nat) {rest : List Char} (more : rest ≠ []) :
    stringUnits offset before ('\\' :: 'u' :: a :: b :: c :: d :: rest)
      = stringUnits (offset + 6) (n :: before) rest := by
  cases rest with
  | nil => exact absurd rfl more
  | cons next rest =>
      rw [stringUnits.eq_def]
      simp [named]

theorem bare_mark : Bare Text.mark := by
  unfold Bare
  decide

/-- The code units of what stands between two quotes. -/
theorem exists_stringUnits {ns : List Nat} {cs : List Char} (body : StringBody ns cs) :
    ∃ units, Decodes units ns ∧ ∀ offset before rest,
      stringUnits offset before (cs ++ '\x22' :: rest)
        = .ok (before.reverse ++ units, offset + cs.length + 1) := by
  induction body with
  | nil =>
      refine ⟨[], .nil, fun offset before rest => ?_⟩
      rw [List.nil_append, stringUnits.eq_def]
      simp
  | @char c ns cs bare rest ih =>
      obtain ⟨units, decodes, scanned⟩ := ih
      refine ⟨_, decodes.char c, fun offset before rest => ?_⟩
      have bare' : ∀ x ∈ Text.ofChar c, Bare x := by
        intro x member
        rcases Text.mem_ofChar member with rfl | rfl
        · exact bare_mark
        · exact bare
      rw [List.append_assoc, stringUnits_bare bare', scanned, List.reverse_append,
        List.reverse_reverse, List.append_assoc, List.length_append, Nat.add_assoc offset]
  | @short e n ns cs named rest ih =>
      obtain ⟨units, decodes, scanned⟩ := ih
      obtain ⟨small, -⟩ := shortEscape?_lt named
      have own : Text.isSurrogate n = false := Bool.eq_false_iff.2 fun surrogate => by
        rw [Text.isSurrogate_eq_true_iff] at surrogate
        omega
      refine ⟨_, decodes.own (by omega) own, fun offset before rest => ?_⟩
      rw [List.cons_append, List.cons_append, stringUnits_short named, scanned, List.reverse_cons,
        List.append_assoc]
      simp only [List.length_cons]
      congr 2
      omega
  | @unit a b c d n ns cs named alone rest ih =>
      obtain ⟨units, decodes, scanned⟩ := ih
      have decoded : Decodes (n :: units) (n :: ns) := by
        cases surrogate : Text.isSurrogate n with
        | false => exact decodes.own (Nat.lt_of_lt_of_le (hexUnit?_lt named) (by decide)) surrogate
        | true => exact decodes.alone surrogate alone
      refine ⟨_, decoded, fun offset before rest => ?_⟩
      have more : cs ++ '\x22' :: rest ≠ [] := by simp
      simp only [List.cons_append]
      rw [stringUnits_unit named offset before more, scanned, List.reverse_cons, List.append_assoc]
      simp only [List.length_cons]
      congr 2
      omega
  | @pair a b c d e f g h n m ns cs first high second low rest ih =>
      obtain ⟨units, decodes, scanned⟩ := ih
      refine ⟨_, decodes.pair high low, fun offset before rest => ?_⟩
      have more : cs ++ '\x22' :: rest ≠ [] := by simp
      simp only [List.cons_append]
      rw [stringUnits_unit first offset before (by simp), stringUnits_unit second _ _ more, scanned]
      simp only [List.reverse_cons, List.append_assoc, List.length_cons]
      congr 2
      omega

/-- Code points are below the greatest one. -/
theorem lt_of_body {ns : List Nat} {cs : List Char} (body : StringBody ns cs) :
    ∀ n ∈ ns, n < 0x110000 := by
  induction body with
  | nil => nofun
  | @char c ns cs bare rest ih =>
      have range : c.toNat < 0xd800 ∨ 0xdfff < c.toNat ∧ c.toNat < 0x110000 := c.valid
      exact List.forall_mem_cons.2 ⟨by omega, ih⟩
  | short named rest ih =>
      have small := (shortEscape?_lt named).1
      exact List.forall_mem_cons.2 ⟨by omega, ih⟩
  | unit named alone rest ih =>
      have small := hexUnit?_lt named
      exact List.forall_mem_cons.2 ⟨by omega, ih⟩
  | pair first high second low rest ih =>
      refine List.forall_mem_cons.2 ⟨?_, ih⟩
      simp only [Text.isHighSurrogate, Text.isLowSurrogate, Bool.and_eq_true,
        decide_eq_true_eq] at high low
      omega

/-- A text of a string of characters is its token. -/
theorem scans_string {s : String} {cs : List Char} (string : StringText s cs)
    (own : Text.OfCharacters s.toList) (rest : List Char) : Scans cs rest (.str s true) := by
  cases string with
  | @quoted ns cs body =>
      obtain ⟨units, decodes, scanned⟩ := exists_stringUnits body
      rw [String.toList_ofList] at own
      have noSurrogate : ns.any Text.isSurrogate = false := by
        rw [List.any_eq_false]
        intro n member
        simp [Text.not_isSurrogate_of_ofCharacters (lt_of_body body) own n member]
      refine ⟨'\x22', cs ++ ['\x22'], rfl, rfl, ?_⟩
      have units_eq := scanned 1 [] rest
      rw [List.reverse_nil, List.nil_append] at units_eq
      have paired : Text.unitsPaired units = true := by
        rw [decodes.paired, noSurrogate]
        rfl
      rw [List.append_assoc, List.singleton_append]
      have scanned : scan '\x22' (cs ++ '\x22' :: rest)
          = (.str (String.ofList (Text.ofUnits units)) (Text.unitsPaired units),
            1 + cs.length + 1) := by
        simp only [scan, units_eq]
        rfl
      rw [scanned, decodes.text, paired, List.length_append, List.length_singleton]
      congr 1
      omega

/-! ## Numbers -/

theorem isDigit_of_mem_toDigits {m : Nat} {d : Char} (h : d ∈ Nat.toDigits 10 m) :
    isDigit d = true := by
  have digit := Nat.isDigit_of_mem_toDigits (by decide) (by decide) h
  exact digit

/-- Only zero is written with a zero in front. -/
theorem eq_zero_of_head_toDigits {m : Nat} (h : (Nat.toDigits 10 m).head? = some '0') : m = 0 := by
  induction m using Nat.strongRecOn with
  | ind m ih =>
      rw [Nat.toDigits_eq_if (by decide)] at h
      split at h
      next small =>
        have zero : ∀ d < 10, d.digitChar = '0' → d = 0 := by decide
        exact zero m small (Option.some.inj h)
      next large =>
        obtain ⟨first, others, digits_eq⟩ :=
          List.exists_cons_of_ne_nil (@Nat.toDigits_ne_nil (m / 10) 10)
        rw [digits_eq, List.cons_append, List.head?_cons] at h
        have zero : m / 10 = 0 := ih (m / 10) (by omega) (by rw [digits_eq, List.head?_cons, h])
        omega

/-- What may follow a number: it does not go on. -/
def Ends (rest : List Char) : Prop :=
  ∀ c ∈ rest.head?, isDigit c = false ∧ c ≠ '.' ∧ c ≠ 'e' ∧ c ≠ 'E'

theorem ends_mark {c : Char} (mark : c = ',' ∨ c = ']' ∨ c = '\x7d') (rest : List Char) :
    Ends (c :: rest) := by
  intro d first
  cases first
  rcases mark with rfl | rfl | rfl <;> decide

/-- Blanks end a number. -/
theorem Ends.behind {bs rest : List Char} (ends : Ends rest) (blank : Blank bs) :
    Ends (bs ++ rest) := by
  cases bs with
  | nil => exact ends
  | cons b bs =>
      intro d first
      cases first
      have space := blank b List.mem_cons_self
      simp only [isSpace, Bool.or_eq_true, decide_eq_true_eq] at space
      rcases space with ((rfl | rfl) | rfl) | rfl <;> decide

theorem scanNumber_toDigits (negative : Bool) {m : Nat} {rest : List Char} (ends : Ends rest)
    (short : (Nat.toDigits 10 m).length ≤ Text.digitLimit) :
    scanNumber negative (Nat.toDigits 10 m ++ rest)
      = (.number (.int (if negative then -m else m)) (Nat.toDigits 10 m).length,
        (if negative then 1 else 0) + (Nat.toDigits 10 m).length) := by
  have digits : (Nat.toDigits 10 m ++ rest).takeWhile isDigit = Nat.toDigits 10 m := by
    rw [List.takeWhile_append_of_pos fun d => isDigit_of_mem_toDigits]
    cases rest with
    | nil => simp
    | cons c rest => simp [(ends c rfl).1]
  obtain ⟨first, others, digits_eq⟩ := List.exists_cons_of_ne_nil (@Nat.toDigits_ne_nil m 10)
  have whole : (if first = '0' then ['0'] else Nat.toDigits 10 m) = Nat.toDigits 10 m := by
    split
    next zero =>
      have m_eq : m = 0 := eq_zero_of_head_toDigits (by rw [digits_eq, zero]; rfl)
      rw [m_eq]
      rfl
    next => rfl
  have value : Nat.ofDigitChars 10 (Nat.toDigits 10 m) 0 = m :=
    Nat.ofDigitChars_toDigits (by decide) (by decide)
  unfold scanNumber
  simp only [digits]
  rw [digits_eq]
  simp only []
  rw [← digits_eq, whole, List.drop_left]
  cases rest with
  | nil => simp [value, Nat.not_lt.2 short]
  | cons c rest =>
      obtain ⟨-, noPoint, noPower, noPower'⟩ := ends c rfl
      simp [noPoint, noPower, noPower', value, Nat.not_lt.2 short]

section
variable {c d : Char} (digit : isDigit d = true)
include digit

theorem ne_of_isDigit {x : Char} (other : isDigit x = false) : d ≠ x := by
  rintro rfl
  rw [digit] at other
  cases other

/-- No word begins with a digit, and none with a digit behind a minus sign. -/
theorem find_words_digit (rest : List Char) :
    (words.find? fun (word, _) => word.isPrefixOf (d :: rest)) = none := by
  have first : ∀ entry ∈ words, entry.1 ≠ [] ∧ ∀ c ∈ entry.1.head?, isDigit c = false := by
    simp [words, isDigit]
  rw [List.find?_eq_none]
  rintro ⟨word, value⟩ member
  obtain ⟨some, other⟩ := first _ member
  obtain ⟨c, others, rfl⟩ := List.exists_cons_of_ne_nil some
  have ne : c ≠ d := (ne_of_isDigit digit (other c rfl)).symm
  simp [List.isPrefixOf, ne]

theorem find_words_minus (rest : List Char) :
    (words.find? fun (word, _) => word.isPrefixOf ('-' :: d :: rest)) = none := by
  have second : ∀ entry ∈ words,
      entry.1.tail ≠ [] ∧ ∀ c ∈ entry.1.tail.head?, isDigit c = false := by
    simp [words, isDigit]
  rw [List.find?_eq_none]
  rintro ⟨word, value⟩ member
  obtain ⟨some, other⟩ := second _ member
  cases word with
  | nil => exact absurd rfl some
  | cons b word =>
      obtain ⟨c, others, rfl⟩ := List.exists_cons_of_ne_nil some
      have ne : c ≠ d := (ne_of_isDigit digit (other c rfl)).symm
      simp [List.isPrefixOf, ne]

theorem scan_digit (rest : List Char) : scan d rest = scanNumber false (d :: rest) := by
  have ne : ∀ x, isDigit x = false → d ≠ x := fun x => ne_of_isDigit digit
  unfold scan
  simp only [ne '\x7b' rfl, ne '\x7d' rfl, ne '[' rfl, ne ']' rfl, ne ':' rfl, ne ',' rfl,
    ne '\x22' rfl, ne '-' rfl, if_false, find_words_digit digit]

theorem scan_minus (rest : List Char) : scan '-' (d :: rest) = scanNumber true (d :: rest) := by
  -- only the word for a negative infinite number begins with a minus sign, too
  unfold scan
  simp [find_words_minus digit]

end

/-- The token of a whole number. -/
theorem scan_int (n : Int) {rest : List Char} (ends : Ends rest)
    (short : (Nat.toDigits 10 n.natAbs).length ≤ Text.digitLimit) :
    ∃ c cs, Location.intDigits n = c :: cs ∧ isSpace c = false ∧
      scan c (cs ++ rest) = (.number (.int n) (Nat.toDigits 10 n.natAbs).length, cs.length + 1) := by
  obtain ⟨d, others, digits_eq⟩ :=
    List.exists_cons_of_ne_nil (@Nat.toDigits_ne_nil n.natAbs 10)
  have digit : isDigit d = true := isDigit_of_mem_toDigits (digits_eq ▸ List.mem_cons_self)
  unfold Location.intDigits
  split
  next negative =>
    refine ⟨'-', _, rfl, rfl, ?_⟩
    have number := scanNumber_toDigits true ends short
    rw [digits_eq, List.cons_append] at number ⊢
    rw [scan_minus digit, number]
    have value : -(n.natAbs : Int) = n := by omega
    rw [if_pos rfl, if_pos rfl, value, Nat.add_comm]
  next positive =>
    have ne : ∀ x, isDigit x = false → d ≠ x := fun x => ne_of_isDigit digit
    have noSpace : isSpace d = false := by
      simp [isSpace, ne ' ' rfl, ne '\t' rfl, ne '\n' rfl, ne '\r' rfl]
    refine ⟨d, others, digits_eq, noSpace, ?_⟩
    have number := scanNumber_toDigits false ends short
    rw [digits_eq, List.cons_append] at number
    rw [scan_digit digit, number]
    have value : (n.natAbs : Int) = n := by omega
    simp [value, digits_eq]

/-- A text of a whole number is its token. -/
theorem scans_int {n : Int} {cs rest : List Char} (number : NumberText (.int n) cs)
    (short : (Nat.toDigits 10 n.natAbs).length ≤ Text.digitLimit) (ends : Ends rest) :
    ∃ digits, digits ≤ Text.digitLimit ∧ Scans cs rest (.number (.int n) digits) := by
  cases number with
  | int =>
      obtain ⟨c, others, cs_eq, noSpace, scanned⟩ := scan_int n ends short
      exact ⟨_, short, c, others, cs_eq, noSpace, scanned⟩
  | minusZero =>
      refine ⟨1, by decide, '-', ['0'], rfl, rfl, ?_⟩
      have zero := scanNumber_toDigits true (m := 0) ends (by decide)
      rw [List.singleton_append, scan_minus rfl]
      exact zero

end Token

end CallPlan
