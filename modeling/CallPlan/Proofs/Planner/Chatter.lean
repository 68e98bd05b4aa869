import CallPlan.Planner
import CallPlan.Proofs.Json.Printing
import CallPlan.Proofs.Planner.Braces
import Mathlib.Data.List.Forall2

/-!
# CallPlan.Proofs.Planner.Chatter

The object in a text that has more than the object.

* Of a text of an object the search uses four facts (`Sought`): the marks at its ends, that all of
  it is kept, and that the brace which opens it is closed at its end, whatever follows.
* So it is found behind a text without opening braces, if there are no fences, and in a block behind
  a text without backticks (`Planner.findDocument_of_chatter`).
-/

namespace CallPlan

open Json

namespace Extract

/-! ## Texts of objects -/

/-- Whether a character may stand where another one does in a string: it is the same, or a surrogate
that stands alone, where the other is U+FFFD. -/
def Alike (c c' : Char) : Prop := c = c' ∨ (Text.surrogate? c).isSome = true ∧ c' = '\uFFFD'

/-- The texts of objects, where a string may also hold surrogates that stand alone. -/
def IsObjectText (cs : List Char) : Prop :=
  ∃ members plain, IsText (.obj members) plain ∧ List.Forall₂ Alike cs plain

/-- What the search for an object uses of its text. -/
structure Sought (cs : List Char) : Prop where
  opens : cs.head? = some '\x7b'
  closes : cs.getLast? = some '\x7d'
  kept : ∀ c ∈ cs, isKept c = true
  closing : ∀ rest, toClosing 0 .outside (cs ++ rest) = some cs

section
variable {c c' m : Char} {cs cs' found : List Char} {depth : Nat} {quoting : Quoting}

theorem Alike.refl (c : Char) : Alike c c := .inl rfl

theorem le_of_surrogate? (h : (Text.surrogate? c).isSome = true) : 0xf0000 ≤ c.toNat := by
  refine Nat.le_of_not_lt fun low => ?_
  have zero : c.toNat - 0xf0000 = 0 := by omega
  simp [Text.surrogate?, zero, Text.isSurrogate_eq_true_iff] at h

/-- Alike characters are the same mark, if they are one. -/
theorem Alike.eq_iff (alike : Alike c c') (low : m.toNat < 0xf0000) (other : m ≠ '\uFFFD') :
    c = m ↔ c' = m := by
  rcases alike with rfl | ⟨surrogate, rfl⟩
  · exact Iff.rfl
  · have large := le_of_surrogate? surrogate
    constructor
    · rintro rfl
      omega
    · intro same
      exact absurd same.symm other

theorem Alike.isKept (alike : Alike c c') (kept : isKept c' = true) : isKept c = true := by
  rcases alike with rfl | ⟨surrogate, -⟩
  · exact kept
  · have large := le_of_surrogate? surrogate
    exact isKept_of_le (by omega)

theorem kept_of_alike (alike : List.Forall₂ Alike cs cs') (kept : ∀ c ∈ cs', isKept c = true) :
    ∀ c ∈ cs, isKept c = true := by
  induction alike with
  | nil => exact kept
  | cons first rest ih =>
      obtain ⟨firstKept, restKept⟩ := List.forall_mem_cons.1 kept
      exact List.forall_mem_cons.2 ⟨first.isKept firstKept, ih restKept⟩

/-! ## The closing brace -/

/-- In alike texts the closing brace stands at the same place. -/
theorem length_toClosing_of_alike (alike : List.Forall₂ Alike cs cs') :
    (toClosing depth quoting cs).map List.length
      = (toClosing depth quoting cs').map List.length := by
  induction alike generalizing depth quoting with
  | nil => rfl
  | @cons c c' cs cs' first rest ih =>
      -- the search asks for four marks only, and takes the same way for both characters
      have quote := first.eq_iff (m := '\x22') (by decide) (by decide)
      have backslash := first.eq_iff (m := '\\') (by decide) (by decide)
      have opening := first.eq_iff (m := '\x7b') (by decide) (by decide)
      have closing := first.eq_iff (m := '\x7d') (by decide) (by decide)
      have further (depth : Nat) (quoting : Quoting) :
          ((toClosing depth quoting cs).map (c :: ·)).map List.length
            = ((toClosing depth quoting cs').map (c' :: ·)).map List.length := by
        have same := congrArg (Option.map (· + 1)) (@ih depth quoting)
        simpa only [Option.map_map, Function.comp_def, List.length_cons] using same
      cases quoting with
      | escaped => exact further depth .inside
      | inside =>
          simp only [toClosing, quote, backslash]
          exact further depth _
      | outside =>
          simp only [toClosing, quote, opening, closing]
          split
          · exact further depth .inside
          split
          · exact further (depth + 1) .outside
          split
          · split
            · rfl
            · exact further (depth - 1) .outside
          · exact further depth .outside

/-- What is found is the beginning of the text, up to a closing brace. -/
theorem prefix_of_toClosing (h : toClosing depth quoting cs = some found) :
    found <+: cs ∧ found.getLast? = some '\x7d' := by
  induction cs generalizing depth quoting found with
  | nil => cases quoting <;> cases h
  | cons c cs ih =>
      have further {depth : Nat} {quoting : Quoting}
          (h : (toClosing depth quoting cs).map (c :: ·) = some found) :
          found <+: c :: cs ∧ found.getLast? = some '\x7d' := by
        obtain ⟨found, inner, rfl⟩ := Option.map_eq_some_iff.1 h
        obtain ⟨before, last⟩ := ih inner
        refine ⟨List.cons_prefix_cons.2 ⟨rfl, before⟩, ?_⟩
        rw [List.getLast?_cons, last]
        rfl
      cases quoting with
      | escaped => exact further h
      | inside => exact further h
      | outside =>
          rw [toClosing] at h
          split at h
          · exact further h
          split at h
          · exact further h
          split at h
          next closes =>
            split at h
            · cases h
              exact ⟨List.cons_prefix_cons.2 ⟨rfl, List.nil_prefix⟩, congrArg some closes⟩
            · exact further h
          · exact further h

/-- A text of an object is what is sought. -/
theorem IsObjectText.sought (object : IsObjectText cs) : Sought cs := by
  obtain ⟨members, plain, text, alike⟩ := object
  -- what is found has the length of the text and is a beginning of it, so it is the text
  have closing (rest : List Char) : toClosing 0 .outside (cs ++ rest) = some cs := by
    have both : List.Forall₂ Alike (cs ++ rest) (plain ++ rest) :=
      List.rel_append alike (List.forall₂_same.2 fun c _ => Alike.refl c)
    have length_eq : (toClosing 0 .outside (cs ++ rest)).map List.length = some plain.length := by
      rw [length_toClosing_of_alike both, toClosing_text text rest]
      rfl
    obtain ⟨found, closes, length_found⟩ := Option.map_eq_some_iff.1 length_eq
    have same_length : found.length = cs.length := length_found.trans alike.length_eq.symm
    have before : found <+: cs :=
      List.prefix_of_prefix_length_le (prefix_of_toClosing closes).1 (List.prefix_append cs rest)
        (Nat.le_of_eq same_length)
    rw [closes, before.eq_of_length same_length]
  refine ⟨?_, (prefix_of_toClosing (closing [])).2, ?_, closing⟩
  · obtain ⟨inner, rfl, -⟩ := exists_inner text
    obtain ⟨c, rest, first, -, rfl⟩ := List.forall₂_cons_right_iff.1 alike
    exact congrArg some ((first.eq_iff (by decide) (by decide)).2 rfl)
  · exact kept_of_alike alike (crosses_text text (Nat.le_refl 1)).kept

end

/-! ## Behind a text without opening braces -/

section
variable {before cs after : List Char}

theorem Sought.exists_rest (sought : Sought cs) : ∃ rest, cs = '\x7b' :: rest :=
  List.head?_eq_some_iff.1 sought.opens

theorem braced_of_sought (sought : Sought cs) (noOpening : '\x7b' ∉ before) :
    braced ((before ++ (cs ++ after)).filter isKept) = .ok cs := by
  obtain ⟨rest, cs_eq⟩ := sought.exists_rest
  have passed : ∀ c ∈ before.filter isKept, decide (c ≠ '\x7b') = true := by
    intro c member
    refine decide_eq_true ?_
    rintro rfl
    exact noOpening (List.mem_filter.1 member).1
  have stops : (cs ++ after.filter isKept).dropWhile (· ≠ '\x7b') = cs ++ after.filter isKept := by
    rw [cs_eq]
    rfl
  have closes := sought.closing (after.filter isKept)
  rw [List.filter_append, List.filter_append, List.filter_eq_self.2 sought.kept, braced,
    List.dropWhile_append_of_pos passed, stops]
  rw [cs_eq, List.cons_append] at closes ⊢
  simp only [closes]

/-- Without fences there is no block. -/
theorem relevant_of_noFence (noFence : ¬ fence <:+: cs) : relevant cs = cs := by
  have noBlock : ¬ HasBlock cs := by
    rintro ⟨before, content, after, -, rfl⟩
    exact noFence ⟨before, content ++ (fence ++ after), by rw [List.append_assoc]⟩
  rw [relevant, fenced?_eq_none_iff.2 noBlock]

/-! ## In a block -/

theorem fenced?_behind (noBacktick : '\x60' ∉ before) (cs : List Char) :
    fenced? (before ++ cs) = fenced? cs := by
  induction before with
  | nil => rfl
  | cons c before ih =>
      obtain ⟨other, others⟩ := not_or.1 (mt List.mem_cons.2 noBacktick)
      have noFence : fence.isPrefixOf (c :: (before ++ cs)) = false := by
        simp [fence, List.isPrefixOf, other]
      rw [List.cons_append, fenced?]
      simp only [noFence, Bool.false_eq_true, if_false]
      exact ih others

theorem not_infix_line (noFence : ¬ fence <:+: cs) : ¬ fence <:+: cs ++ ['\n'] := by
  rw [List.infix_concat_iff, not_or]
  refine ⟨?_, noFence⟩
  rintro ⟨front, eq⟩
  have last := congrArg List.getLast? eq
  simp [fence] at last

/-- A line without fences ends in front of the fence that follows. -/
theorem beforeFence_line (noFence : ¬ fence <:+: cs ++ ['\n']) :
    beforeFence (cs ++ '\n' :: (fence ++ after)) = some (cs ++ ['\n']) := by
  induction cs with
  | nil => rfl
  | cons c cs ih =>
      have notHere : fence.isPrefixOf (c :: (cs ++ '\n' :: (fence ++ after))) = false := by
        rw [← Bool.not_eq_true, List.isPrefixOf_iff_prefix]
        intro here
        have line : (c :: cs) ++ ['\n'] <+: c :: (cs ++ '\n' :: (fence ++ after)) :=
          ⟨fence ++ after, by simp⟩
        rcases List.prefix_or_prefix_of_prefix here line with inside | beyond
        · exact noFence inside.isInfix
        · -- the fence would reach over the line break
          have member : '\n' ∈ fence := beyond.subset (by simp)
          exact absurd member (by decide)
      have further : ¬ fence <:+: cs ++ ['\n'] :=
        fun inside => noFence (List.infix_cons inside)
      rw [List.cons_append, beforeFence, notHere, if_neg Bool.false_ne_true, ih further]
      rfl

theorem blockContent?_of_sought (sought : Sought cs) (noFence : ¬ fence <:+: cs)
    (after : List Char) :
    blockContent? (label ++ ('\n' :: (cs ++ '\n' :: (fence ++ after)))) = some (cs ++ ['\n']) := by
  obtain ⟨rest, rfl⟩ := sought.exists_rest
  have content : content? ('\x7b' :: rest ++ '\n' :: (fence ++ after))
      = some ('\x7b' :: rest ++ ['\n']) := by
    have noFence' : ¬ fence <:+: rest := fun inside => noFence (List.infix_cons inside)
    rw [List.cons_append, content?, beforeFence_line (not_infix_line noFence')]
    rfl
  have afterBlanks : contentAfterBlanks? (['\n'] ++ ('\x7b' :: rest ++ '\n' :: (fence ++ after)))
      = some ('\x7b' :: rest ++ ['\n']) := by
    have opens : ∀ c ∈ ('\x7b' :: rest ++ '\n' :: (fence ++ after)).head?,
        Text.isBlank c = false := by
      rintro _ ⟨⟩
      rfl
    rw [contentAfterBlanks?_append (List.forall_mem_singleton.2 rfl) opens, content]
    rfl
  have labelled : label.isPrefixOf (label ++ ('\n' :: ('\x7b' :: rest ++ '\n' :: (fence ++ after))))
      = true := List.isPrefixOf_iff_prefix.2 (List.prefix_append _ _)
  simp only [List.singleton_append] at afterBlanks
  rw [blockContent?, labelled, List.drop_left]
  simp only [if_true, afterBlanks]

theorem trimBy_line (sought : Sought cs) : Text.trimBy Text.isBlank (cs ++ ['\n']) = cs := by
  obtain ⟨rest, cs_eq⟩ := sought.exists_rest
  obtain ⟨front, cs_eq'⟩ := List.getLast?_eq_some_iff.1 sought.closes
  have first : (cs ++ ['\n']).dropWhile Text.isBlank = cs ++ ['\n'] := by
    rw [cs_eq]
    rfl
  have last : (cs ++ ['\n']).reverse.dropWhile Text.isBlank = cs.reverse := by
    rw [cs_eq', List.reverse_append, List.reverse_append]
    rfl
  rw [Text.trimBy, first, last, List.reverse_reverse]

theorem relevant_of_block (sought : Sought cs) (noFence : ¬ fence <:+: cs)
    (noBacktick : '\x60' ∉ before) :
    relevant (before ++ (fence ++ (label ++ ('\n' :: (cs ++ '\n' :: (fence ++ after)))))) = cs := by
  have block := blockContent?_of_sought sought noFence after
  rw [relevant, fenced?_behind noBacktick, fenced?_of_block block]
  exact trimBy_line sought

end

/-! ## The object -/

theorem IsObjectText.of_isText {members : Members} {cs : List Char}
    (text : IsText (.obj members) cs) : IsObjectText cs :=
  ⟨members, cs, text, List.forall₂_same.2 fun c _ => Alike.refl c⟩

theorem object_of_relevant {text : String} {before cs after : List Char} (sought : Sought cs)
    (noOpening : '\x7b' ∉ before) (relevant_eq : relevant text.toList = before ++ (cs ++ after)) :
    object text = .ok (String.ofList cs) := by
  rw [object, relevant_eq, braced_of_sought sought noOpening]
  rfl

end Extract

namespace Planner

open Extract

/-- The text of an object, if it has no fence, is found in whatever a model writes around it: behind
a text without opening braces, where the whole has no fence, and in a block behind a text without
backticks. -/
theorem findDocument_of_chatter {d : String} (object : IsObjectText d.toList)
    (noFence : ¬ fence <:+: d.toList) :
    (∀ before after : String, '\x7b' ∉ before.toList → ¬ fence <:+: (before ++ d ++ after).toList →
      findDocument (.str (before ++ d ++ after)) = .ok d) ∧
    ∀ before after : String, '\x60' ∉ before.toList →
      findDocument (.str (before ++ "```json\n" ++ d ++ "\n```" ++ after)) = .ok d := by
  have sought := object.sought
  have told {text : String} (found : Extract.object text = .ok d) :
      findDocument (.str text) = .ok d := by
    rw [findDocument, found]
    rfl
  constructor
  · intro before after noOpening noFence
    have text_eq : (before ++ d ++ after).toList
        = before.toList ++ (d.toList ++ after.toList) := by
      simp only [String.toList_append, List.append_assoc]
    have found := object_of_relevant sought noOpening ((relevant_of_noFence noFence).trans text_eq)
    exact told (found.trans (congrArg _ String.ofList_toList))
  · intro before after noBacktick
    have text_eq : (before ++ "```json\n" ++ d ++ "\n```" ++ after).toList = before.toList ++
        (fence ++ (label ++ ('\n' :: (d.toList ++ '\n' :: (fence ++ after.toList))))) := by
      simp [fence, label]
    have relevant_eq : relevant (before ++ "```json\n" ++ d ++ "\n```" ++ after).toList
        = [] ++ (d.toList ++ []) := by
      rw [text_eq, relevant_of_block sought noFence noBacktick]
      simp
    have found := object_of_relevant sought List.not_mem_nil relevant_eq
    exact told (found.trans (congrArg _ String.ofList_toList))

/-- Braces, quotes and backslashes in a key and a string do no harm, nor do more of them around. -/
theorem findDocument_of_chatter_quoting :
    let value := Json.obj [("a \x7d \x22 b", .arr [.obj [], .num (.int (-3)), .str "\\ \x7b"])]
    let d := value.asciiText
    findDocument (.str ("So \x7d: " ++ d ++ " \x7b\x7d \x22")) = .ok d ∧
      findDocument (.str ("In \x7b:\n" ++ "```json\n" ++ d ++ "\n```" ++ " ``` \x7d")) = .ok d := by
  intro value d
  have readable : value.Readable := by
    have distinct : ["a \x7d \x22 b"].Nodup := by decide
    have words : ∀ key ∈ ["a \x7d \x22 b"], ∀ c ∈ key.toList, c.toNat < 0xf0000 := by simp
    have none : (Json.obj []).Readable := .obj List.nodup_nil nofun nofun
    have number : (Json.num (.int (-3))).Readable := .int (by decide)
    have text : (Json.str "\\ \x7b").Readable := .str (Text.ofCharacters_of_lt (by simp))
    have items : (Json.arr [.obj [], .num (.int (-3)), .str "\\ \x7b"]).Readable :=
      .arr (by simpa using ⟨none, number, text⟩)
    exact .record distinct words (by simpa using items)
  have spaced := separates_of_written .spacedAscii (by simp [written])
  have d_eq : d.toList = value.write .spacedAscii := String.toList_ofList
  have object : IsObjectText d.toList := d_eq ▸ .of_isText (isText_write spaced readable)
  have noFence : ¬ fence <:+: d.toList := by decide +kernel
  have noFence' : ¬ fence <:+: ("So \x7d: " ++ d ++ " \x7b\x7d \x22").toList := by decide +kernel
  obtain ⟨plain, fenced⟩ := findDocument_of_chatter object noFence
  exact ⟨plain "So \x7d: " " \x7b\x7d \x22" (by simp) noFence',
    fenced "In \x7b:\n" " ``` \x7d" (by simp)⟩

end Planner

end CallPlan
