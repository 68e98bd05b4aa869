import CallPlan.Text.Encoding
import Mathlib.Algebra.Group.Nat.Defs

/-!
# CallPlan.Proofs.Text.Characters

Texts of characters, in which no surrogate stands alone (`OfCharacters`), and the code units by
which they are escaped; and how large a number is that a run of digits denotes (`ofDigitChars_lt`).
-/

namespace CallPlan

namespace Text

/-! ## Single characters -/

theorem isSurrogate_eq_true_iff {n : Nat} :
    isSurrogate n = true ↔ 0xd800 ≤ n ∧ n < 0xe000 := by
  simp only [isSurrogate, isHighSurrogate, isLowSurrogate, Bool.or_eq_true, Bool.and_eq_true,
    decide_eq_true_eq]
  omega

/-- No character is a surrogate. -/
theorem isSurrogate_toNat (c : Char) : isSurrogate c.toNat = false := by
  rw [← Bool.not_eq_true, isSurrogate_eq_true_iff]
  have valid : c.toNat < 0xd800 ∨ 0xdfff < c.toNat ∧ c.toNat < 0x110000 := c.valid
  omega

theorem ofPoint_toNat (c : Char) : ofPoint c.toNat = ofChar c := by
  simp [ofPoint, isSurrogate_toNat]

theorem toNat_ofNat {n : Nat} (h : n < 0xd800 ∨ 0xdfff < n ∧ n < 0x110000) :
    (Char.ofNat n).toNat = n := by
  have valid : n.isValidChar := h
  rw [Char.ofNat, dif_pos valid]
  rfl

/-- A character below those for private use stands for itself. -/
theorem ofChar_of_lt {c : Char} (h : c.toNat < 0xf0000) : ofChar c = [c] := by
  have none : surrogate? c = none := by
    have zero : c.toNat - 0xf0000 = 0 := by omega
    simp [surrogate?, zero, isSurrogate_eq_true_iff]
  have noMark : c ≠ mark := by
    rintro rfl
    exact absurd h (by decide)
  simp [ofChar, none, noMark]

theorem ofPoint_of_lt {n : Nat} (h : n < 0xf0000) (own : isSurrogate n = false) :
    ofPoint n = [Char.ofNat n] := by
  have valid : n < 0xd800 ∨ 0xdfff < n ∧ n < 0x110000 := by
    rw [← Bool.not_eq_true, isSurrogate_eq_true_iff] at own
    omega
  have low : (Char.ofNat n).toNat < 0xf0000 := by
    rw [toNat_ofNat valid]
    exact h
  rw [ofPoint, own, if_neg Bool.false_ne_true, ofChar_of_lt low]

theorem mem_ofChar {c x : Char} (h : x ∈ ofChar c) : x = mark ∨ x = c := by
  unfold ofChar at h
  split at h
  next =>
    rcases List.mem_cons.1 h with same | member
    · exact .inl same
    · exact .inr (List.mem_singleton.1 member)
  next => exact .inr (List.mem_singleton.1 h)

/-! ## Texts of characters -/

/-- A text of characters, without surrogates that stand alone. -/
def OfCharacters (cs : List Char) : Prop := ∃ own, cs = ofChars own

theorem ofChars_append (first second : List Char) :
    ofChars (first ++ second) = ofChars first ++ ofChars second := List.flatMap_append

theorem OfCharacters.append {cs ds : List Char} (h : OfCharacters cs) (h' : OfCharacters ds) :
    OfCharacters (cs ++ ds) := by
  obtain ⟨own, rfl⟩ := h
  obtain ⟨own', rfl⟩ := h'
  exact ⟨own ++ own', (ofChars_append own own').symm⟩

theorem ofCharacters_of_lt {cs : List Char} (low : ∀ c ∈ cs, c.toNat < 0xf0000) :
    OfCharacters cs := by
  refine ⟨cs, ?_⟩
  induction cs with
  | nil => rfl
  | cons c rest ih =>
      have others := ih fun d member => low d (List.mem_cons_of_mem _ member)
      rw [ofChars, List.flatMap_cons, ofChar_of_lt (low c List.mem_cons_self)]
      exact congrArg (c :: ·) others

/-- No surrogate stands alone in a text of characters. -/
theorem OfCharacters.isPaired {text : String} (h : OfCharacters text.toList) :
    isPaired text = true := by
  obtain ⟨own, text_eq⟩ := h
  rw [Text.isPaired, text_eq, points_ofChars, Bool.not_eq_true', List.any_eq_false]
  intro n member
  obtain ⟨c, -, rfl⟩ := List.mem_map.1 member
  simp [isSurrogate_toNat]

/-- A text of characters can be encoded. -/
theorem OfCharacters.unencodable?_eq_none {cs : List Char} (h : OfCharacters cs) :
    unencodable? cs = none := by
  obtain ⟨own, rfl⟩ := h
  have none : (points (ofChars own)).findIdx? isSurrogate = none := by
    rw [points_ofChars, List.findIdx?_eq_none_iff]
    intro n member
    obtain ⟨c, -, rfl⟩ := List.mem_map.1 member
    exact isSurrogate_toNat c
  rw [unencodable?, lacking?, none]

/-! ## Texts of code points -/

theorem points_cons_of_surrogate? {c : Char} {n : Nat} (h : surrogate? c = some n)
    (noMark : c ≠ mark) (rest : List Char) : points (c :: rest) = n :: points rest := by
  simp [points, pointsFrom, noMark, h]

/-- A code point at the start of a text is read back. -/
theorem points_ofPoint_append {n : Nat} (h : n < 0x110000) (rest : List Char) :
    points (ofPoint n ++ rest) = n :: points rest := by
  unfold ofPoint
  split
  next surrogate =>
    refine points_cons_of_surrogate? (surrogate?_loneSurrogate surrogate) ?_ rest
    intro same
    have kept := surrogate?_loneSurrogate surrogate
    have notKept : surrogate? mark = none := by decide
    rw [same, notKept] at kept
    cases kept
  next own =>
    rw [isSurrogate_eq_true_iff] at own
    rw [points_ofChar_append, toNat_ofNat (by omega)]

/-- Code points are read back from their text. -/
theorem points_ofPoints {ns : List Nat} (h : ∀ n ∈ ns, n < 0x110000) :
    points (ofPoints ns) = ns := by
  induction ns with
  | nil => rfl
  | cons n rest ih =>
      have step : ofPoints (n :: rest) = ofPoint n ++ ofPoints rest := rfl
      rw [step, points_ofPoint_append (h n List.mem_cons_self),
        ih fun m member => h m (List.mem_cons_of_mem _ member)]

theorem ofPoints_map_toNat (cs : List Char) : ofPoints (cs.map Char.toNat) = ofChars cs := by
  induction cs with
  | nil => rfl
  | cons c rest ih =>
      have step : ofPoints ((c :: rest).map Char.toNat)
          = ofPoint c.toNat ++ ofPoints (rest.map Char.toNat) := rfl
      rw [step, ofPoint_toNat, ih]
      rfl

/-- A text of code points is one of characters only if no surrogate is among them. -/
theorem not_isSurrogate_of_ofCharacters {ns : List Nat} (valid : ∀ n ∈ ns, n < 0x110000)
    (h : OfCharacters (ofPoints ns)) : ∀ n ∈ ns, isSurrogate n = false := by
  obtain ⟨own, text_eq⟩ := h
  have points_eq := congrArg points text_eq
  rw [points_ofPoints valid, points_ofChars] at points_eq
  rw [points_eq]
  intro n member
  obtain ⟨c, -, rfl⟩ := List.mem_map.1 member
  exact isSurrogate_toNat c

/-! ## Digits -/

/-- So many digits denote a number with so many digits. -/
theorem ofDigitChars_lt {digits : List Char}
    (h : ∀ c ∈ digits, ('0' ≤ c && c ≤ '9') = true) (init : Nat) :
    Nat.ofDigitChars 10 digits init < (init + 1) * 10 ^ digits.length := by
  induction digits generalizing init with
  | nil => simp
  | cons c rest ih =>
      have digit := h c List.mem_cons_self
      rw [Bool.and_eq_true, decide_eq_true_eq, decide_eq_true_eq] at digit
      have small : c.toNat - '0'.toNat ≤ 9 := Nat.sub_le_of_le_add digit.2
      have others := ih (fun c member => h c (List.mem_cons_of_mem _ member))
        (10 * init + (c.toNat - '0'.toNat))
      rw [Nat.ofDigitChars_cons, List.length_cons, Nat.pow_succ]
      calc Nat.ofDigitChars 10 rest (10 * init + (c.toNat - '0'.toNat))
        _ < (10 * init + (c.toNat - '0'.toNat) + 1) * 10 ^ rest.length := others
        _ ≤ (10 * (init + 1)) * 10 ^ rest.length := Nat.mul_le_mul_right _ (by omega)
        _ = (init + 1) * (10 ^ rest.length * 10) := by
          rw [Nat.mul_comm 10 (init + 1), Nat.mul_assoc, Nat.mul_comm 10]

end Text

end CallPlan
