import CallPlan.Proofs.Validation.Fault
import Mathlib.Data.List.Induction

/-!
# CallPlan.Proofs.Reference.Grammar

Which texts are references.

* `Text.Denotes` says which number a run of decimal digits denotes, and `Reference.Written` which
  characters a reference is written in: a dollar sign, such a run, `.output.`, and segments joined
  by single dots.
* The two parts of `Reference.parse` take a text apart in just this way (`split?_eq_some_iff`,
  `segments?_eq_some_iff`), so it accepts what is written like a reference, and one thing more: the
  same with a line break behind it (`parse_eq_some_iff`).
-/

namespace CallPlan

/-! ## Numbers -/

namespace Text

/-- A run of decimal digits denotes a number: its last digit counts once, and all before it ten
times. -/
inductive Denotes : List Char → Nat → Prop where
  | single {c : Char} {d : Nat} (digit : digitValue? c = some d) : Denotes [c] d
  | snoc {cs : List Char} {c : Char} {n d : Nat} (run : Denotes cs n)
      (digit : digitValue? c = some d) : Denotes (cs ++ [c]) (n * 10 + d)

theorem digitsValue_snoc (cs : List Char) (c : Char) :
    digitsValue (cs ++ [c]) = digitsValue cs * 10 + (digitValue? c).getD 0 := by
  rw [digitsValue, List.foldl_append]
  rfl

theorem isDigit_of_digitValue? {c : Char} {d : Nat} (h : digitValue? c = some d) :
    isDigit c = true := by
  rw [isDigit, h, Option.isSome_some]

theorem Denotes.run {cs : List Char} {n : Nat} (h : Denotes cs n) :
    cs ≠ [] ∧ (∀ c ∈ cs, isDigit c = true) ∧ digitsValue cs = n := by
  induction h with
  | single digit =>
      exact ⟨nofun, List.forall_mem_singleton.2 (isDigit_of_digitValue? digit),
        by simp [digitsValue, digit]⟩
  | snoc run digit ih =>
      obtain ⟨-, digits, value⟩ := ih
      refine ⟨by simp, List.forall_mem_append.2
        ⟨digits, List.forall_mem_singleton.2 (isDigit_of_digitValue? digit)⟩, ?_⟩
      rw [digitsValue_snoc, value, digit, Option.getD_some]

/-- A run of decimal digits denotes its value. -/
theorem denotes_digitsValue {cs : List Char} (some : cs ≠ [])
    (digits : ∀ c ∈ cs, isDigit c = true) : Denotes cs (digitsValue cs) := by
  induction cs using List.reverseRecOn with
  | nil => exact absurd rfl some
  | append_singleton front c ih =>
      obtain ⟨digitsFront, digit⟩ := List.forall_mem_append.1 digits
      obtain ⟨d, value⟩ := Option.isSome_iff_exists.1 (digit c (List.mem_singleton_self c))
      rw [digitsValue_snoc, value, Option.getD_some]
      by_cases none : front = []
      · subst none
        simpa [digitsValue] using Denotes.single value
      · exact .snoc (ih none digitsFront) value

end Text

namespace Reference

/-! ## The written form -/

/-- A segment of a path: some segment characters. -/
def IsSegment (segment : String) : Prop :=
  segment.toList ≠ [] ∧ ∀ c ∈ segment.toList, isSegmentChar c = true

/-- A path with at least one segment. -/
def IsPath (path : List String) : Prop := path ≠ [] ∧ ∀ segment ∈ path, IsSegment segment

/-- The segments of a path, joined by single dots. -/
def dotted (path : List String) : List Char := ['.'].intercalate (path.map String.toList)

/-- The characters in which a field of a call is referred to: the call is named by a run of digits,
the field by its path. -/
inductive Written (source : Nat) (path : List String) : List Char → Prop where
  | intro {digits : List Char} (index : Text.Denotes digits source) (segments : IsPath path) :
      Written source path ('$' :: (digits ++ (middle ++ dotted path)))

/-! ## The index and what follows it -/

theorem takeWhile_digits {digits : List Char} (run : ∀ c ∈ digits, Text.isDigit c = true)
    (rest : List Char) : (digits ++ (middle ++ rest)).takeWhile Text.isDigit = digits := by
  have stops : (middle ++ rest).takeWhile Text.isDigit = [] :=
    List.takeWhile_cons_of_neg (by decide)
  rw [List.takeWhile_append_of_pos run, stops, List.append_nil]

/-- A text begins like a reference if it is a dollar sign, some digits, the middle part, and a
rest. -/
theorem split?_eq_some_iff {cs digits rest : List Char} :
    split? cs = some (digits, rest) ↔
      digits ≠ [] ∧ (∀ c ∈ digits, Text.isDigit c = true) ∧
        cs = '$' :: (digits ++ (middle ++ rest)) := by
  constructor
  · intro h
    unfold split? at h
    split at h
    · cases h
    · next c cs =>
        split at h
        · next dollar =>
            dsimp only at h
            split at h
            · next parts =>
                cases h
                rw [Bool.and_eq_true, Bool.not_eq_true', List.isEmpty_eq_false_iff] at parts
                obtain ⟨some, follows⟩ := parts
                refine ⟨some, fun c => List.all_eq_true.1 List.all_takeWhile c, ?_⟩
                rw [dollar, List.prefix_iff_eq_append.1 (List.isPrefixOf_iff_prefix.1 follows),
                  List.prefix_iff_eq_append.1 (List.takeWhile_prefix _)]
            · cases h
        · cases h
  · rintro ⟨some, run, rfl⟩
    have follows : middle.isPrefixOf (middle ++ rest) = true :=
      List.isPrefixOf_iff_prefix.2 (List.prefix_append _ _)
    have given : digits.isEmpty = false := List.isEmpty_eq_false_iff.2 some
    simp only [split?, takeWhile_digits run, List.drop_left, follows, given]
    rfl

/-! ## The path -/

/-- What stays of a text without its final line break is the text, or had the line break behind
it. -/
theorem dropFinalBreak_eq_iff {cs rest : List Char} (h : '\n' ∉ rest) :
    dropFinalBreak cs = rest ↔ cs = rest ∨ cs = rest ++ ['\n'] := by
  constructor
  · rintro rfl
    unfold dropFinalBreak
    split
    · next last =>
        obtain ⟨front, rfl⟩ := List.getLast?_eq_some_iff.1 last
        exact .inr (by rw [List.dropLast_concat])
    · exact .inl rfl
  · rintro (rfl | rfl)
    · exact if_neg fun last => h (List.mem_of_getLast? last)
    · simp [dropFinalBreak]

theorem isSegmentChar_ne_dot {c : Char} (h : isSegmentChar c = true) : c ≠ '.' := by
  rintro rfl
  exact absurd h (by decide)

/-- What a path is written in are dots and segment characters. -/
theorem mem_dotted {path : List String} (segments : ∀ segment ∈ path, IsSegment segment) {c : Char}
    (member : c ∈ dotted path) : c = '.' ∨ isSegmentChar c = true := by
  induction path with
  | nil => cases member
  | cons segment rest ih =>
      obtain ⟨first, others⟩ := List.forall_mem_cons.1 segments
      by_cases none : rest = []
      · subst none
        rw [dotted, List.map_singleton, List.intercalate_singleton] at member
        exact .inr (first.2 c member)
      · rw [dotted, List.map_cons, List.intercalate_cons_of_ne_nil (by simpa using none)] at member
        rcases List.mem_append.1 member with member | member
        · rcases List.mem_append.1 member with member | dot
          · exact .inr (first.2 c member)
          · exact .inl (List.mem_singleton.1 dot)
        · exact ih others member

theorem not_mem_dotted {path : List String} (h : IsPath path) : '\n' ∉ dotted path := by
  intro member
  rcases mem_dotted h.2 member with dot | segmentChar
  · exact absurd dot (by decide)
  · exact absurd segmentChar (by decide)

theorem toList_map_ofList (parts : List (List Char)) :
    (parts.map String.ofList).map String.toList = parts := by
  simp [List.map_map, Function.comp_def]

theorem ofList_map_toList (path : List String) :
    (path.map String.toList).map String.ofList = path := by
  simp [List.map_map, Function.comp_def]

/-- A path that is written is split at its dots, and only there. -/
theorem splitOnP_dotted {path : List String} (h : IsPath path) :
    (dotted path).splitOnP (· = '.') = path.map String.toList := by
  obtain ⟨some, segments⟩ := h
  have undotted : ∀ part ∈ path.map String.toList, '.' ∉ part := by
    intro part member dot
    obtain ⟨segment, inside, rfl⟩ := List.mem_map.1 member
    exact isSegmentChar_ne_dot ((segments segment inside).2 _ dot) rfl
  have split := List.splitOn_intercalate '.' undotted (by simpa using some)
  rw [List.splitOn_eq_splitOnP] at split
  exact split

theorem dotted_splitOnP (cs : List Char) :
    dotted ((cs.splitOnP (· = '.')).map String.ofList) = cs := by
  have joined : ['.'].intercalate (cs.splitOn '.') = cs := List.intercalate_splitOn '.'
  rw [List.splitOn_eq_splitOnP] at joined
  rw [dotted, toList_map_ofList]
  exact joined

/-- Parts are the segments of a path if there are some and none of them breaks the rule. -/
theorem isPath_ofList {parts : List (List Char)} :
    IsPath (parts.map String.ofList) ↔
      parts ≠ [] ∧ (parts.all fun part => !part.isEmpty && part.all isSegmentChar) = true := by
  simp [IsPath, IsSegment]

/-- The segments that are read are those of the path that is written, with or without a line break
behind it. -/
theorem segments?_eq_some_iff {cs : List Char} {path : List String} :
    segments? cs = some path ↔
      IsPath path ∧ (cs = dotted path ∨ cs = dotted path ++ ['\n']) := by
  constructor
  · intro h
    simp only [segments?] at h
    split at h
    · next each =>
        cases h
        have isPath := isPath_ofList.2 ⟨List.splitOnP_ne_nil _ _, each⟩
        exact ⟨isPath, (dropFinalBreak_eq_iff (not_mem_dotted isPath)).1 (dotted_splitOnP _).symm⟩
    · cases h
  · rintro ⟨isPath, written⟩
    have each := isPath
    rw [← ofList_map_toList path, isPath_ofList] at each
    rw [← dropFinalBreak_eq_iff (not_mem_dotted isPath)] at written
    simp only [segments?, written, splitOnP_dotted isPath]
    rw [if_pos each.2, ofList_map_toList]

/-! ## The whole text -/

/-- A text is read as a reference that is written in it, perhaps with a line break behind it. -/
theorem parse_eq_some_iff {text : String} (short : ShortIndex text) {reference : Reference} :
    parse text = .ok (some reference) ↔
      reference.raw = text ∧ ∃ cs, Written reference.source reference.path cs ∧
        (text.toList = cs ∨ text.toList = cs ++ ['\n']) := by
  constructor
  · intro h
    refine ⟨raw_of_parse h, ?_⟩
    unfold parse at h
    split at h
    · cases h
    · next digits rest parts =>
        obtain ⟨some, run, text_eq⟩ := split?_eq_some_iff.1 parts
        split at h
        · cases h
        · next path segments =>
            obtain ⟨isPath, written⟩ := segments?_eq_some_iff.1 segments
            split at h
            · cases h
            · cases h
              refine ⟨_, .intro (Text.denotes_digitsValue some run) isPath, ?_⟩
              rw [text_eq]
              rcases written with rfl | rfl
              · exact .inl rfl
              · exact .inr (by simp)
  · rintro ⟨rfl, cs, written, text_eq⟩
    cases written with
    | @intro digits index isPath =>
        obtain ⟨some, run, value⟩ := index.run
        -- the text is split behind the middle part, with the line break in the rest
        obtain ⟨rest, split, ending⟩ : ∃ rest,
            split? reference.raw.toList = .some (digits, rest) ∧
              (rest = dotted reference.path ∨ rest = dotted reference.path ++ ['\n']) := by
          rcases text_eq with e | e
          · exact ⟨_, split?_eq_some_iff.2 ⟨some, run, e⟩, .inl rfl⟩
          · exact ⟨_, split?_eq_some_iff.2 ⟨some, run, by simp [e]⟩, .inr rfl⟩
        have segments := segments?_eq_some_iff.2 ⟨isPath, ending⟩
        have few : ¬ Text.digitLimit < digits.length := Nat.not_lt_of_le (short _ _ split)
        simp only [parse, split, segments, value, if_neg few]

/-- Behind what is written no line break stands yet. -/
theorem Written.not_mem {source : Nat} {path : List String} {cs : List Char}
    (h : Written source path cs) : '\n' ∉ cs := by
  cases h with
  | intro index isPath =>
      simp only [List.mem_cons, List.mem_append, not_or]
      exact ⟨by decide, fun member => absurd (index.run.2.1 _ member) (by decide), by decide,
        not_mem_dotted isPath⟩

/-- A text is what a reference is written in, with a line break behind it. -/
def EndsInBreak (text : String) : Prop :=
  ∃ source path cs, Written source path cs ∧ text.toList = cs ++ ['\n']

theorem parse_of_endsInBreak {text : String} (short : ShortIndex text) (h : EndsInBreak text) :
    ∃ reference, parse text = .ok (some reference) ∧ reference.raw = text ∧
      Written reference.source reference.path text.toList.dropLast := by
  obtain ⟨source, path, cs, written, text_eq⟩ := h
  refine ⟨⟨source, path, text⟩, ?_, rfl, ?_⟩
  · exact (parse_eq_some_iff short).2 ⟨rfl, cs, written, .inr text_eq⟩
  · rw [text_eq, List.dropLast_concat]
    exact written

/-- A text is read as a reference if and only if it is written as one, with nothing before it and
nothing behind it, and then as the reference that is written, unless a line break stands behind it:
then what stands before the line break is read. -/
theorem parse_meets_iff (text : String) (short : ShortIndex text) :
    (∃ found, parse text = .ok found) ∧
    ((∀ reference, parse text = .ok (some reference) ↔
        reference.raw = text ∧ Written reference.source reference.path text.toList) ↔
      ¬ EndsInBreak text) ∧
    (EndsInBreak text → ∃ reference, parse text = .ok (some reference) ∧ reference.raw = text ∧
      Written reference.source reference.path text.toList.dropLast) := by
  refine ⟨?_, ⟨fun meets broken => ?_, fun whole reference => ?_⟩, parse_of_endsInBreak short⟩
  · cases result : parse text with
    | ok found => exact ⟨found, rfl⟩
    | error long => exact absurd result (short.parse_ne_error long)
  · obtain ⟨reference, read, -, -⟩ := parse_of_endsInBreak short broken
    obtain ⟨source, path, cs, -, text_eq⟩ := broken
    refine ((meets reference).1 read).2.not_mem ?_
    rw [text_eq]
    exact List.mem_append_right cs (List.mem_singleton_self _)
  · rw [parse_eq_some_iff short]
    refine and_congr_right fun _ => ⟨?_, fun written => ⟨_, written, .inl rfl⟩⟩
    rintro ⟨cs, written, rfl | text_eq⟩
    · exact written
    · exact absurd ⟨_, _, cs, written, text_eq⟩ whole

/-- An index may be written in the digits of any script. -/
theorem parse_meets_iff_devanagari :
    ShortIndex "$१२.output.rows.x_1" ∧
      Written 12 ["rows", "x_1"] "$१२.output.rows.x_1".toList := by
  have split : split? "$१२.output.rows.x_1".toList
      = some (['१', '२'], ['r', 'o', 'w', 's', '.', 'x', '_', '1']) := by rfl
  have short : ShortIndex "$१२.output.rows.x_1" := .of_split split (by decide)
  have whole : ¬ EndsInBreak "$१२.output.rows.x_1" := by
    rintro ⟨source, path, cs, -, text_eq⟩
    have last := congrArg List.getLast? text_eq
    rw [List.getLast?_concat] at last
    exact absurd last (by decide)
  obtain ⟨-, meets, -⟩ := parse_meets_iff "$१२.output.rows.x_1" short
  exact ⟨short, ((meets.2 whole ⟨12, ["rows", "x_1"], _⟩).1 (by rfl)).2⟩

/-- A text is read as a reference though it is not written as one: a line break stands behind it. -/
theorem exists_parse_not_written :
    ∃ text reference, ShortIndex text ∧ parse text = .ok (some reference) ∧
      ∀ source path, ¬ Written source path text.toList := by
  have split : split? "$0.output.a\n".toList = some (['0'], ['a', '\n']) := by rfl
  refine ⟨"$0.output.a\n", ⟨0, ["a"], "$0.output.a\n"⟩, .of_split split (by decide), by rfl, ?_⟩
  intro source path written
  exact written.not_mem (by decide)

end Reference

end CallPlan
