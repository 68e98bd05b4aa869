import CallPlan.Proofs.Planner.Blocks
import CallPlan.Proofs.Json.Lexemes

/-!
# CallPlan.Proofs.Planner.Braces

Where the object in a text ends.

* The search for it goes over a text (`Crosses`) if it comes, from a depth of open braces and a place
  with respect to string literals, to another such state behind the text, and keeps all of it. Over a
  text of a JSON value it comes back to the depth at which it was, outside of strings
  (`crosses_text`).
* So the object in blanks, the text of an object and more blanks is this text (`braced_document`).
-/

namespace CallPlan

open Json

namespace Extract

/-! ## Going over a text -/

/-- The search for the closing brace goes over a text, all of which is kept. -/
structure Crosses (depth : Nat) (quoting : Quoting) (cs : List Char) (depth' : Nat)
    (quoting' : Quoting) : Prop where
  scan : ∀ rest, toClosing depth quoting (cs ++ rest)
    = (toClosing depth' quoting' rest).map (cs ++ ·)
  kept : ∀ c ∈ cs, isKept c = true
  own : Text.OfCharacters cs

section
variable {depth depth' depth'' : Nat} {quoting quoting' quoting'' : Quoting} {cs ds : List Char}

theorem Crosses.nil : Crosses depth quoting [] depth quoting where
  scan rest := by simp
  kept := nofun
  own := ⟨[], rfl⟩

theorem Crosses.append (h : Crosses depth quoting cs depth' quoting')
    (h' : Crosses depth' quoting' ds depth'' quoting'') :
    Crosses depth quoting (cs ++ ds) depth'' quoting'' where
  scan rest := by
    rw [List.append_assoc, h.scan, h'.scan, Option.map_map]
    congr 1
    funext found
    exact (List.append_assoc cs ds found).symm
  kept c member := (List.mem_append.1 member).elim (h.kept c) (h'.kept c)
  own := h.own.append h'.own

/-- One character that stands for itself. -/
theorem crosses_char {c : Char} (scan : ∀ rest, toClosing depth quoting (c :: rest)
      = (toClosing depth' quoting' rest).map (c :: ·))
    (kept : isKept c = true) (small : c.toNat < 0xf0000) :
    Crosses depth quoting [c] depth' quoting' where
  scan := scan
  kept _ member := List.mem_singleton.1 member ▸ kept
  own := Text.ofCharacters_of_lt fun _ member => List.mem_singleton.1 member ▸ small

theorem isKept_of_le {c : Char} (large : 0x20 ≤ c.toNat) : isKept c = true := by
  have le : ' ' ≤ c := large
  simp [isKept, le]

/-! ## Outside of strings -/

/-- A character that the search passes over outside of strings. -/
def Plain (c : Char) : Prop :=
  isKept c = true ∧ c.toNat < 0xf0000 ∧ c ≠ '\x22' ∧ c ≠ '\x7b' ∧ c ≠ '\x7d'

instance (c : Char) : Decidable (Plain c) :=
  inferInstanceAs (Decidable (isKept c = true ∧ _))

theorem crosses_plain (plain : ∀ c ∈ cs, Plain c) :
    Crosses depth .outside cs depth .outside := by
  induction cs with
  | nil => exact .nil
  | cons c cs ih =>
      obtain ⟨kept, small, noQuote, noOpening, noClosing⟩ := plain c List.mem_cons_self
      have first : Crosses depth .outside [c] depth .outside :=
        crosses_char (fun rest => by simp [toClosing, noQuote, noOpening, noClosing]) kept small
      exact first.append (ih fun d member => plain d (List.mem_cons_of_mem _ member))

theorem plain_isSpace {c : Char} (space : Token.isSpace c = true) : Plain c := by
  simp only [Token.isSpace, Bool.or_eq_true, decide_eq_true_eq] at space
  rcases space with ((rfl | rfl) | rfl) | rfl <;> decide

theorem plain_isDigit {c : Char} (digit : Token.isDigit c = true) : Plain c := by
  have range : '0' ≤ c ∧ c ≤ '9' := by simpa [Token.isDigit] using digit
  have large : 48 ≤ c.toNat := range.1
  have small : c.toNat ≤ 57 := range.2
  exact ⟨isKept_of_le (by omega), by omega, Token.ne_of_isDigit digit rfl,
    Token.ne_of_isDigit digit rfl, Token.ne_of_isDigit digit rfl⟩

theorem crosses_blank (blank : Blank cs) : Crosses depth .outside cs depth .outside :=
  crosses_plain fun c member => plain_isSpace (blank c member)

theorem crosses_digits (digits : ∀ c ∈ cs, Token.isDigit c = true) :
    Crosses depth .outside cs depth .outside :=
  crosses_plain fun c member => plain_isDigit (digits c member)

theorem crosses_toDigits (n : Nat) :
    Crosses depth .outside (Nat.toDigits 10 n) depth .outside :=
  crosses_digits fun _ => Token.isDigit_of_mem_toDigits

theorem crosses_exponent {power : Int} (text : ExponentText power cs) :
    Crosses depth .outside cs depth .outside := by
  have mark_plain : ∀ {e : Char}, e = 'e' ∨ e = 'E' → ∀ c ∈ [e], Plain c := by
    rintro e (rfl | rfl) <;> simp [Plain, isKept]
  cases text with
  | none => exact .nil
  | positive mark plus digits some =>
      refine (crosses_plain (mark_plain mark)).append (.append ?_ (crosses_digits digits))
      rcases plus with rfl | rfl
      · exact .nil
      · exact crosses_plain (by simp [Plain, isKept])
  | negative mark digits some =>
      have minus_plain : ∀ c ∈ ['-'], Plain c := by simp [Plain, isKept]
      exact (crosses_plain (mark_plain mark)).append
        ((crosses_plain minus_plain).append (crosses_digits digits))

theorem crosses_number {n : Number} (text : NumberText n cs) :
    Crosses depth .outside cs depth .outside := by
  have minus_plain : ∀ c ∈ ['-'], Plain c := by simp [Plain, isKept]
  cases text with
  | int n =>
      unfold Location.intDigits
      split
      · exact (crosses_plain minus_plain).append (crosses_toDigits _)
      · exact crosses_toDigits _
  | minusZero => exact crosses_plain (by simp [Plain, isKept])
  | @float minus fraction exponent power whole sign digits exponentText real =>
      have point_plain : ∀ c ∈ ['.'], Plain c := by simp [Plain, isKept]
      have minus_crossed : Crosses depth .outside minus depth .outside := by
        rcases sign with rfl | rfl
        · exact .nil
        · exact crosses_plain minus_plain
      have fraction_crossed : Crosses depth .outside
          (if fraction = [] then [] else '.' :: fraction) depth .outside := by
        split
        · exact .nil
        · exact (crosses_plain point_plain).append (crosses_digits digits)
      exact ((minus_crossed.append (crosses_toDigits whole)).append fraction_crossed).append
        (crosses_exponent exponentText)

/-! ## Strings -/

theorem crosses_bare {c : Char} (bare : Bare c) :
    Crosses depth .inside (Text.ofChar c) depth .inside := by
  -- a character may stand behind the mark, which is no quote and no backslash either
  have each : ∀ d ∈ Text.ofChar c, Bare d := by
    intro d member
    rcases Text.mem_ofChar member with rfl | rfl
    · exact Token.bare_mark
    · exact bare
  refine ⟨?_, fun d member => isKept_of_le (each d member).2.2, [c], ?_⟩
  · generalize Text.ofChar c = cs at each
    induction cs with
    | nil => simp
    | cons d cs ih =>
        obtain ⟨noQuote, noBackslash, -⟩ := each d List.mem_cons_self
        intro rest
        have inner := ih (fun x member => each x (List.mem_cons_of_mem _ member)) rest
        simp [toClosing, noQuote, noBackslash, inner, Function.comp_def]
  · rw [Text.ofChars, List.flatMap_singleton]

theorem crosses_escape {e : Char} (large : 0x20 ≤ e.toNat) (small : e.toNat < 0xf0000) :
    Crosses depth .inside ['\\', e] depth .inside := by
  have opened : Crosses depth .inside ['\\'] depth .escaped :=
    crosses_char (fun rest => rfl) rfl (by decide)
  have closed : Crosses depth .escaped [e] depth .inside :=
    crosses_char (fun rest => rfl) (isKept_of_le large) small
  exact opened.append closed

theorem crosses_hexValue {c : Char} {n : Nat} (named : Token.hexValue? c = some n) :
    Crosses depth .inside [c] depth .inside := by
  have range := Token.cases_of_hexValue? named
  have small : c.toNat < 0xf0000 := by omega
  have noQuote : c.toNat ≠ 0x22 := by omega
  have noBackslash : c.toNat ≠ 0x5c := by omega
  have bare : Bare c :=
    ⟨fun same => noQuote (congrArg Char.toNat same),
      fun same => noBackslash (congrArg Char.toNat same), by omega⟩
  rw [← Text.ofChar_of_lt small]
  exact crosses_bare bare

theorem crosses_hexUnit {a b c d : Char} {n : Nat} (named : Token.hexUnit? a b c d = some n) :
    Crosses depth .inside ['\\', 'u', a, b, c, d] depth .inside := by
  simp only [Token.hexUnit?, Option.bind_eq_bind, Option.bind_eq_some_iff] at named
  obtain ⟨a', first, b', second, c', third, d', fourth, -⟩ := named
  have start : Crosses depth .inside ['\\', 'u'] depth .inside :=
    crosses_escape (by decide) (by decide)
  exact start.append ((crosses_hexValue first).append ((crosses_hexValue second).append
    ((crosses_hexValue third).append (crosses_hexValue fourth))))

theorem crosses_body {ns : List Nat} (body : StringBody ns cs) :
    Crosses depth .inside cs depth .inside := by
  induction body with
  | nil => exact .nil
  | char bare rest ih => exact (crosses_bare bare).append ih
  | @short e n ns cs named rest ih =>
      have range : ∀ e ∈ ['\x22', '\\', '/', 'b', 'f', 'n', 'r', 't'],
          0x20 ≤ e.toNat ∧ e.toNat < 0xf0000 := by simp
      obtain ⟨large, small⟩ := range e (Token.mem_of_shortEscape? named)
      exact (crosses_escape large small).append ih
  | unit named alone rest ih => exact (crosses_hexUnit named).append ih
  | pair first high second low rest ih =>
      exact (crosses_hexUnit first).append ((crosses_hexUnit second).append ih)

theorem crosses_string {s : String} (text : StringText s cs) :
    Crosses depth .outside cs depth .outside := by
  cases text with
  | quoted body =>
      have opened : Crosses depth .outside ['\x22'] depth .inside :=
        crosses_char (fun rest => rfl) rfl (by decide)
      have closed : Crosses depth .inside ['\x22'] depth .outside :=
        crosses_char (fun rest => rfl) rfl (by decide)
      exact opened.append ((crosses_body body).append closed)

theorem crosses_key {key : String} (name : KeyText key cs) :
    Crosses depth .outside cs depth .outside := by
  cases name with
  | around blank string blank' =>
      exact (crosses_blank blank).append ((crosses_string string).append (crosses_blank blank'))

end

/-! ## Values -/

section
variable {depth : Nat} {cs : List Char}

theorem plain_comma : ∀ c ∈ [','], Plain c := by simp [Plain, isKept]

theorem plain_colon : ∀ c ∈ [':'], Plain c := by simp [Plain, isKept]

/-- Something between two marks that are no braces. -/
theorem Crosses.bracketed (h : Crosses depth .outside cs depth .outside) :
    Crosses depth .outside ('[' :: (cs ++ [']'])) depth .outside := by
  have opened : ∀ c ∈ ['['], Plain c := by simp [Plain, isKept]
  have closed : ∀ c ∈ [']'], Plain c := by simp [Plain, isKept]
  exact (crosses_plain opened).append (h.append (crosses_plain closed))

/-- Something between braces. -/
theorem Crosses.braced (some : 1 ≤ depth)
    (h : Crosses (depth + 1) .outside cs (depth + 1) .outside) :
    Crosses depth .outside ('\x7b' :: (cs ++ ['\x7d'])) depth .outside := by
  have opened : Crosses depth .outside ['\x7b'] (depth + 1) .outside :=
    crosses_char (fun rest => rfl) rfl (by decide)
  have closed : Crosses (depth + 1) .outside ['\x7d'] depth .outside := by
    refine crosses_char (fun rest => ?_) rfl (by decide)
    have inner : ¬ depth + 1 ≤ 1 := by omega
    simp [toClosing, inner]
  exact opened.append (h.append closed)

end

mutual

/-- The search comes back, behind a text of a value, to where it was. -/
theorem crosses_text {value : Json} {cs : List Char} (text : IsText value cs) {depth : Nat}
    (some : 1 ≤ depth) : Crosses depth .outside cs depth .outside :=
  match text with
  | .null => crosses_plain (by simp [Plain, isKept])
  | .true => crosses_plain (by simp [Plain, isKept])
  | .false => crosses_plain (by simp [Plain, isKept])
  | .num number => crosses_number number
  | .str string => crosses_string string
  | .noItems blank => (crosses_blank blank).bracketed
  | .arr items => (crosses_items items some).bracketed
  | .noMembers blank => (crosses_blank blank).braced some
  | .obj members => (crosses_members members (Nat.le_add_left 1 depth)).braced some

theorem crosses_document {value : Json} {cs : List Char} (text : Document value cs) {depth : Nat}
    (some : 1 ≤ depth) : Crosses depth .outside cs depth .outside :=
  match text with
  | .around blank text blank' =>
      (crosses_blank blank).append ((crosses_text text some).append (crosses_blank blank'))

theorem crosses_items {items : List Json} {cs : List Char} (text : ItemsText items cs)
    {depth : Nat} (some : 1 ≤ depth) : Crosses depth .outside cs depth .outside :=
  match text with
  | .last text => crosses_document text some
  | .more text others =>
      (crosses_document text some).append
        ((crosses_plain plain_comma).append (crosses_items others some))

theorem crosses_members {members : List (String × Json)} {cs : List Char}
    (text : MembersText members cs) {depth : Nat} (some : 1 ≤ depth) :
    Crosses depth .outside cs depth .outside :=
  match text with
  | .last name text =>
      (crosses_key name).append ((crosses_plain plain_colon).append (crosses_document text some))
  | .more name text others =>
      (crosses_key name).append ((crosses_plain plain_colon).append
        ((crosses_document text some).append
          ((crosses_plain plain_comma).append (crosses_members others some))))

end

/-! ## The object in a document -/

theorem exists_inner {members : Members} {cs : List Char} (text : IsText (.obj members) cs) :
    ∃ inner, cs = '\x7b' :: (inner ++ ['\x7d']) ∧ Crosses 1 .outside inner 1 .outside := by
  cases text with
  | noMembers blank => exact ⟨_, rfl, crosses_blank blank⟩
  | obj some => exact ⟨_, rfl, crosses_members some (Nat.le_refl 1)⟩

/-- The search for the end of an object, from its text on, ends with this text. -/
theorem toClosing_text {members : Members} {cs : List Char} (text : IsText (.obj members) cs)
    (rest : List Char) : toClosing 0 .outside (cs ++ rest) = some cs := by
  obtain ⟨inner, rfl, crosses⟩ := exists_inner text
  calc toClosing 0 .outside ('\x7b' :: (inner ++ ['\x7d']) ++ rest)
    _ = toClosing 0 .outside ('\x7b' :: (inner ++ ('\x7d' :: rest))) := by simp
    _ = (toClosing 1 .outside (inner ++ ('\x7d' :: rest))).map ('\x7b' :: ·) := rfl
    _ = ((toClosing 1 .outside ('\x7d' :: rest)).map (inner ++ ·)).map ('\x7b' :: ·) := by
      rw [crosses.scan]
    _ = some ('\x7b' :: (inner ++ ['\x7d'])) := rfl

theorem dropWhile_blank {blanks : List Char} (blank : Blank blanks) (rest : List Char) :
    (blanks ++ rest).dropWhile (· ≠ '\x7b') = rest.dropWhile (· ≠ '\x7b') := by
  refine List.dropWhile_append_of_pos fun c member => ?_
  simp [(plain_isSpace (blank c member)).2.2.2.1]

/-- The object in a document is what its blanks stand around. -/
theorem braced_document {members : Members} {cs : List Char}
    (document : Document (.obj members) cs) :
    ∃ found, IsText (.obj members) found ∧ Text.OfCharacters found ∧ braced cs = .ok found := by
  cases document with
  | @around _ before cs after blank text blank' =>
      refine ⟨cs, text, (crosses_text text (Nat.le_refl 1)).own, ?_⟩
      obtain ⟨inner, cs_eq, -⟩ := exists_inner text
      -- no brace stands in the blanks in front, and the first one opens the object
      have opens : (cs ++ after).dropWhile (· ≠ '\x7b') = cs ++ after := by
        rw [cs_eq]
        rfl
      have closes := toClosing_text text after
      rw [braced, dropWhile_blank blank, opens]
      rw [cs_eq] at closes ⊢
      simp only [List.cons_append] at closes ⊢
      rw [closes]

/-- The object in a document without blocks is found as a text of the same value. -/
theorem object_document {members : Members} {text : String}
    (document : Document (.obj members) text.toList) (noBlock : ¬ HasBlock text.toList) :
    ∃ found, IsText (.obj members) found ∧ Text.OfCharacters found ∧
      object text = .ok (String.ofList found) := by
  obtain ⟨found, isText, own, found_eq⟩ := braced_document document
  have kept := (crosses_document document (Nat.le_refl 1)).kept
  have whole : (relevant text.toList).filter isKept = text.toList := by
    rw [relevant, fenced?_eq_none_iff.2 noBlock]
    exact List.filter_eq_self.2 kept
  refine ⟨found, isText, own, ?_⟩
  rw [object, whole, found_eq]
  rfl

end Extract

end CallPlan
