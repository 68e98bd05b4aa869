import CallPlan.Failure
import CallPlan.Proofs.Reference.Substitution

/-!
# CallPlan.Proofs.Reference.Pointwise

Substitution place by place.

* `Substituted` says what substitution makes of a value without saying how: a reference becomes the
  value it stands for, as this value is, and everything else stays. Substitution gives a value if
  and only if the two are so related (`substitute_eq_ok_iff_substituted`).
* At a location of the value the rebuilt one has what is made of the value there
  (`Substituted.at?`), from which `Pointwise` reads off what becomes of lists, objects and leaves.
* Where substitution fails it fails with the first reference, depth first, that has no value
  (`FirstUnresolved`).
-/

namespace CallPlan

/-! ## What substitution makes of a value -/

section
variable (results : List ExecutionResult)

mutual

/-- A value and what substitution makes of it. -/
inductive Substituted : Json → Json → Prop where
  | null : Substituted .null .null
  | bool (b : Bool) : Substituted (.bool b) (.bool b)
  | num (n : Number) : Substituted (.num n) (.num n)
  | text {text : String} (plain : Reference.parse text = .ok none) :
      Substituted (.str text) (.str text)
  /-- What a reference stands for is put in as it is, whatever texts it holds. -/
  | reference {text : String} {reference : Reference} {found : Json}
      (parsed : Reference.parse text = .ok (some reference))
      (resolved : reference.resolve results = .ok found) : Substituted (.str text) found
  | arr {items rebuilt : List Json} (each : SubstitutedItems items rebuilt) :
      Substituted (.arr items) (.arr rebuilt)
  | obj {members rebuilt : List (String × Json)} (each : SubstitutedMembers members rebuilt) :
      Substituted (.obj members) (.obj rebuilt)

/-- The items of a list and what substitution makes of each. -/
inductive SubstitutedItems : List Json → List Json → Prop where
  | nil : SubstitutedItems [] []
  | cons {item found : Json} {items rebuilt : List Json} (first : Substituted item found)
      (others : SubstitutedItems items rebuilt) :
      SubstitutedItems (item :: items) (found :: rebuilt)

/-- The members of an object and what substitution makes of each. -/
inductive SubstitutedMembers : List (String × Json) → List (String × Json) → Prop where
  | nil : SubstitutedMembers [] []
  | cons {key : String} {value found : Json} {members rebuilt : List (String × Json)}
      (first : Substituted value found) (others : SubstitutedMembers members rebuilt) :
      SubstitutedMembers ((key, value) :: members) ((key, found) :: rebuilt)

end

end

section
variable {results : List ExecutionResult}

theorem resolveText_eq_ok_iff {text : String} {found : Json} :
    Reference.resolveText results text = .ok found ↔ Substituted results (.str text) found := by
  unfold Reference.resolveText
  constructor
  · intro h
    split at h
    next => cases h
    next plain =>
      cases h
      exact .text plain
    next reference parsed => exact .reference parsed h
  · intro h
    cases h with
    | text plain => rw [plain]
    | reference parsed resolved =>
        rw [parsed]
        exact resolved

mutual

/-- Substitution gives what it makes of a value, and nothing else. -/
theorem substitute_eq_ok_iff_substituted {value rebuilt : Json} :
    substitute value results = .ok rebuilt ↔ Substituted results value rebuilt := by
  rw [substitute]
  cases value with
  | null => exact ⟨by rintro ⟨⟩; exact .null, by rintro ⟨⟩; rfl⟩
  | bool b => exact ⟨by rintro ⟨⟩; exact .bool b, by rintro ⟨⟩; rfl⟩
  | num n => exact ⟨by rintro ⟨⟩; exact .num n, by rintro ⟨⟩; rfl⟩
  | str text => exact resolveText_eq_ok_iff
  | arr items =>
      rw [Json.mapLeavesM, map_eq_ok_iff]
      constructor
      · rintro ⟨others, h, rfl⟩
        exact .arr (substituteItems_eq_ok_iff.1 h)
      · intro h
        cases h with
        | arr each => exact ⟨_, substituteItems_eq_ok_iff.2 each, rfl⟩
  | obj members =>
      rw [Json.mapLeavesM, map_eq_ok_iff]
      constructor
      · rintro ⟨others, h, rfl⟩
        exact .obj (substituteArguments_eq_ok_iff.1 h)
      · intro h
        cases h with
        | obj each => exact ⟨_, substituteArguments_eq_ok_iff.2 each, rfl⟩

theorem substituteItems_eq_ok_iff {index : Nat} {items rebuilt : List Json} :
    Json.mapItemLeavesM (fun _ text => Reference.resolveText results text) index items
        = .ok rebuilt
      ↔ SubstitutedItems results items rebuilt := by
  cases items with
  | nil => exact ⟨by rintro ⟨⟩; exact .nil, by rintro ⟨⟩; rfl⟩
  | cons item items =>
      simp only [Json.mapItemLeavesM, bind_eq_ok_iff]
      constructor
      · rintro ⟨found, first, others, rest, ⟨⟩⟩
        exact .cons (substitute_eq_ok_iff_substituted.1 first) (substituteItems_eq_ok_iff.1 rest)
      · intro h
        cases h with
        | cons first others =>
            exact ⟨_, substitute_eq_ok_iff_substituted.2 first, _,
              substituteItems_eq_ok_iff.2 others, rfl⟩

theorem substituteArguments_eq_ok_iff {members rebuilt : List (String × Json)} :
    substituteArguments members results = .ok rebuilt
      ↔ SubstitutedMembers results members rebuilt := by
  rw [substituteArguments]
  match members with
  | [] => exact ⟨by rintro ⟨⟩; exact .nil, by rintro ⟨⟩; rfl⟩
  | (key, value) :: members =>
      simp only [Json.mapMemberLeavesM, bind_eq_ok_iff]
      constructor
      · rintro ⟨found, first, others, rest, ⟨⟩⟩
        exact .cons (substitute_eq_ok_iff_substituted.1 first)
          (substituteArguments_eq_ok_iff.1 rest)
      · intro h
        cases h with
        | cons first others =>
            exact ⟨_, substitute_eq_ok_iff_substituted.2 first, _,
              substituteArguments_eq_ok_iff.2 others, rfl⟩

end

/-! ## At a location -/

theorem SubstitutedItems.length_eq {items rebuilt : List Json}
    (h : SubstitutedItems results items rebuilt) : rebuilt.length = items.length := by
  induction items generalizing rebuilt with
  | nil =>
      cases h
      rfl
  | cons item items ih =>
      cases h with
      | cons first others => rw [List.length_cons, List.length_cons, ih others]

theorem SubstitutedItems.getElem? {items rebuilt : List Json} {item : Json} {i : Nat}
    (h : SubstitutedItems results items rebuilt) (held : items[i]? = some item) :
    ∃ found, rebuilt[i]? = some found ∧ Substituted results item found := by
  induction items generalizing rebuilt i with
  | nil => simp at held
  | cons other items ih =>
      cases h with
      | cons first others =>
          cases i with
          | zero =>
              obtain rfl : other = item := by simpa using held
              exact ⟨_, rfl, first⟩
          | succ j => exact ih (i := j) others (by simpa using held)

theorem SubstitutedMembers.keys_eq {members rebuilt : Members}
    (h : SubstitutedMembers results members rebuilt) :
    Members.keys rebuilt = Members.keys members := by
  induction members generalizing rebuilt with
  | nil =>
      cases h
      rfl
  | cons member members ih =>
      cases h with
      | cons first others =>
          rw [Members.keys, Members.keys, List.map_cons, List.map_cons]
          exact congrArg _ (ih others)

theorem SubstitutedMembers.get? {members rebuilt : Members} {key : String} {value : Json}
    (h : SubstitutedMembers results members rebuilt)
    (held : Members.get? members key = some value) :
    ∃ found, Members.get? rebuilt key = some found ∧ Substituted results value found := by
  induction members generalizing rebuilt with
  | nil => simp at held
  | cons member members ih =>
      cases h with
      | cons first others =>
          rw [Members.get?_cons] at held ⊢
          split at held
          next same =>
            cases held
            exact ⟨_, if_pos same, first⟩
          next other =>
            rw [if_neg other]
            exact ih others held

/-- At a location of a value substitution leaves what it makes of the value there. -/
theorem Substituted.at? {value rebuilt inner : Json} {place : Location}
    (h : Substituted results value rebuilt) (held : value.at? place = some inner) :
    ∃ found, rebuilt.at? place = some found ∧ Substituted results inner found := by
  induction place generalizing value rebuilt with
  | nil =>
      obtain rfl : value = inner := by simpa using held
      exact ⟨rebuilt, rfl, h⟩
  | cons step rest ih =>
      rw [Json.at?_cons] at held
      obtain ⟨next, part, inside⟩ := Option.bind_eq_some_iff.1 held
      rcases Json.part?_cases part with ⟨members, key, rfl, rfl, own⟩ | ⟨items, i, rfl, rfl, own⟩
      · cases h with
        | obj each =>
            obtain ⟨found, foundAt, made⟩ := each.get? own
            obtain ⟨result, resultAt, madeInside⟩ := ih made inside
            exact ⟨result, by simp [Json.at?_cons, foundAt, resultAt], madeInside⟩
      · cases h with
        | arr each =>
            obtain ⟨found, foundAt, made⟩ := each.getElem? own
            obtain ⟨result, resultAt, madeInside⟩ := ih made inside
            exact ⟨result, by simp [Json.at?_cons, foundAt, resultAt], madeInside⟩

end

/-- A value that holds no other: neither a list nor an object. -/
def Json.IsLeaf (value : Json) : Prop := value.isCompound = false

/-- What has become of arguments, place by place. -/
structure Pointwise (arguments : Members) (results : List ExecutionResult) (rebuilt : Members) :
    Prop where
  /-- As a whole, they are what substitution makes of them. -/
  whole : SubstitutedMembers results arguments rebuilt
  /-- An object keeps its keys, in order. -/
  keys : ∀ place members, (Json.obj arguments).at? place = some (.obj members) →
    ∃ others, (Json.obj rebuilt).at? place = some (.obj others) ∧
      Members.keys others = Members.keys members
  /-- A list keeps its length. -/
  length : ∀ place items, (Json.obj arguments).at? place = some (.arr items) →
    ∃ others, (Json.obj rebuilt).at? place = some (.arr others) ∧ others.length = items.length
  /-- A leaf that is no reference stays as it is. -/
  kept : ∀ place leaf, (Json.obj arguments).at? place = some leaf → leaf.IsLeaf →
    (∀ text reference, leaf = .str text → Reference.parse text ≠ .ok (some reference)) →
    (Json.obj rebuilt).at? place = some leaf
  /-- Where a reference stood there is what it stands for. -/
  replaced : ∀ place text reference, (Json.obj arguments).at? place = some (.str text) →
    Reference.parse text = .ok (some reference) →
    ∃ found, reference.resolve results = .ok found ∧ (Json.obj rebuilt).at? place = some found

theorem SubstitutedMembers.pointwise {arguments rebuilt : Members}
    {results : List ExecutionResult} (h : SubstitutedMembers results arguments rebuilt) :
    Pointwise arguments results rebuilt where
  whole := h
  keys place members held := by
    obtain ⟨found, foundAt, made⟩ := (Substituted.obj h).at? held
    cases made with
    | obj each => exact ⟨_, foundAt, each.keys_eq⟩
  length place items held := by
    obtain ⟨found, foundAt, made⟩ := (Substituted.obj h).at? held
    cases made with
    | arr each => exact ⟨_, foundAt, each.length_eq⟩
  kept place leaf held isLeaf noReference := by
    obtain ⟨found, foundAt, made⟩ := (Substituted.obj h).at? held
    cases made with
    | null => exact foundAt
    | bool b => exact foundAt
    | num n => exact foundAt
    | text plain => exact foundAt
    | reference parsed resolved => exact absurd parsed (noReference _ _ rfl)
    | arr each => exact absurd isLeaf (by simp [Json.IsLeaf, Json.isCompound])
    | obj each => exact absurd isLeaf (by simp [Json.IsLeaf, Json.isCompound])
  replaced place text reference held parsed := by
    obtain ⟨found, foundAt, made⟩ := (Substituted.obj h).at? held
    cases made with
    | text plain => cases plain.symm.trans parsed
    | reference parsed' resolved =>
        cases parsed'.symm.trans parsed
        exact ⟨found, resolved, foundAt⟩

/-! ## The first reference without a value -/

/-- A leaf of some arguments, known by its position among all of them, is a reference. -/
def ReferenceAt (arguments : Members) (position : Nat) (reference : Reference) : Prop :=
  ∃ place text, (Json.obj arguments).leaves[position]? = some (place, text) ∧
    Reference.parse text = .ok (some reference)

/-- Why the first reference of some arguments that has no value has none. -/
def FirstUnresolved (arguments : Members) (results : List ExecutionResult) (cause : Unresolved) :
    Prop :=
  ∃ position reference, ReferenceAt arguments position reference ∧
    reference.resolve results = .error cause ∧
    ∀ earlier other, earlier < position → ReferenceAt arguments earlier other →
      ∃ found, other.resolve results = .ok found

section
variable {arguments : Members} {results : List ExecutionResult}

/-- A reference without a value is told from an index that is too long. -/
theorem Reference.failure_of_resolve {reference : Reference} {cause : Unresolved}
    (h : reference.resolve results = .error cause) :
    Failure.ofUnresolved cause = .reference cause.message := by
  unfold resolve at h
  split at h
  next =>
    cases h
    rfl
  next =>
    split at h
    next =>
      cases h
      rfl
    next => cases h

theorem resolveText_eq_error_iff {text : String} (short : Reference.ShortIndex text)
    {cause : Unresolved} :
    Reference.resolveText results text = .error cause ↔
      ∃ reference, Reference.parse text = .ok (some reference) ∧
        reference.resolve results = .error cause := by
  unfold Reference.resolveText
  constructor
  · intro h
    split at h
    next long parsed => exact absurd parsed (short.parse_ne_error long)
    next => cases h
    next reference parsed => exact ⟨reference, parsed, h⟩
  · rintro ⟨reference, parsed, unresolved⟩
    rw [parsed]
    exact unresolved

/-- A text has a value if it is no reference, and if it is one that has a value. -/
theorem exists_resolveText_iff {text : String} (short : Reference.ShortIndex text) :
    (∃ found, Reference.resolveText results text = .ok found) ↔
      ∀ reference, Reference.parse text = .ok (some reference) →
        ∃ found, reference.resolve results = .ok found := by
  cases parsed : Reference.parse text with
  | error long => exact absurd parsed (short.parse_ne_error long)
  | ok reference? =>
      cases reference? with
      | none => simp [Reference.resolveText, parsed]
      | some reference => simp [Reference.resolveText, parsed]

/-- Substitution fails as the first leaf does that fails. -/
theorem substituteArguments_eq_error_iff {cause : Unresolved} :
    substituteArguments arguments results = .error cause ↔
      ∃ (position : Nat) (leaf : Location × String),
        (Json.obj arguments).leaves[position]? = some leaf ∧
        Reference.resolveText results leaf.2 = .error cause ∧
        ∀ (earlier : Nat) (other : Location × String), earlier < position →
          (Json.obj arguments).leaves[earlier]? = some other →
          ∃ found, Reference.resolveText results other.2 = .ok found := by
  have effects := Json.mapMemberLeavesM_effects
    (fun _ text => Reference.resolveText results text) arguments
  have fails : ∀ {α : Type} {x : Except Unresolved α},
      (fun _ => ()) <$> x = .error cause ↔ x = .error cause := by
    intro α x
    cases x <;> simp [Functor.map, Except.map]
  have passes : ∀ {x : Except Unresolved Json},
      (fun _ => ()) <$> x = .ok () ↔ ∃ found, x = .ok found := by
    intro x
    cases x <;> simp [Functor.map, Except.map]
  rw [substituteArguments, ← fails, effects, forM_eq_error_iff]
  simp only [fails, passes]
  rfl

/-- Substitution fails as the first reference does that has no value. -/
theorem substituteArguments_eq_error_iff_firstUnresolved
    (short : ∀ leaf ∈ (Json.obj arguments).leaves, Reference.ShortIndex leaf.2)
    {cause : Unresolved} :
    substituteArguments arguments results = .error cause ↔
      FirstUnresolved arguments results cause := by
  have short : ∀ {position : Nat} {leaf : Location × String},
      (Json.obj arguments).leaves[position]? = some leaf → Reference.ShortIndex leaf.2 :=
    fun held => short _ (List.mem_of_getElem? held)
  rw [substituteArguments_eq_error_iff]
  constructor
  · rintro ⟨position, leaf, held, fails, before⟩
    obtain ⟨reference, parsed, unresolved⟩ := (resolveText_eq_error_iff (short held)).1 fails
    refine ⟨position, reference, ⟨leaf.1, leaf.2, held, parsed⟩, unresolved, ?_⟩
    rintro earlier other less ⟨place, text, held', parsed'⟩
    exact (exists_resolveText_iff (short held')).1 (before _ _ less held') other parsed'
  · rintro ⟨position, reference, ⟨place, text, held, parsed⟩, unresolved, before⟩
    refine ⟨position, (place, text), held,
      (resolveText_eq_error_iff (short held)).2 ⟨reference, parsed, unresolved⟩, ?_⟩
    intro earlier leaf less held'
    refine (exists_resolveText_iff (short held')).2 fun other parsed' => ?_
    exact before earlier other less ⟨leaf.1, leaf.2, held', parsed'⟩

/-- If a reference has no value there is a first one. -/
theorem exists_firstUnresolved {position : Nat} {reference : Reference} {cause : Unresolved}
    (short : ∀ leaf ∈ (Json.obj arguments).leaves, Reference.ShortIndex leaf.2)
    (stands : ReferenceAt arguments position reference)
    (unresolved : reference.resolve results = .error cause) :
    ∃ first, FirstUnresolved arguments results first := by
  simp only [← substituteArguments_eq_error_iff_firstUnresolved short]
  cases result : substituteArguments arguments results with
  | error first => exact ⟨first, rfl⟩
  | ok rebuilt =>
      -- where all is substituted every reference has a value, this one too
      obtain ⟨place, text, held, parsed⟩ := stands
      have whole : substitute (.obj arguments) results = .ok (.obj rebuilt) :=
        map_eq_ok_iff.2 ⟨rebuilt, result, rfl⟩
      obtain ⟨references, listed, valued⟩ := substitute_eq_ok_iff.1 ⟨_, whole⟩
      have inside := (Reference.mem_amongLeaves_iff listed).2
        ⟨text, List.mem_of_getElem? held, parsed⟩
      obtain ⟨found, resolved⟩ := valued _ inside
      cases resolved.symm.trans unresolved

end

/-- Substitution is right at every place: it gives arguments that are as they were but for the
references, each of which has become the value it stands for, as this value is; and it fails if and
only if some reference has no value, for the reason that the first of these has none, depth
first. -/
theorem substituteArguments_pointwise (arguments : Members) (results : List ExecutionResult)
    (short : ∀ leaf ∈ (Json.obj arguments).leaves, Reference.ShortIndex leaf.2) :
    (∀ rebuilt, substituteArguments arguments results = .ok rebuilt ↔
      Pointwise arguments results rebuilt) ∧
    ((∃ cause, substituteArguments arguments results = .error cause) ↔
      ∃ position reference cause, ReferenceAt arguments position reference ∧
        reference.resolve results = .error cause) ∧
    (∀ cause, substituteArguments arguments results = .error cause ↔
      FirstUnresolved arguments results cause) ∧
    (∀ cause, FirstUnresolved arguments results cause →
      Failure.ofUnresolved cause = .reference cause.message) ∧
    (Json.obj arguments).leaves.Pairwise fun leaf leaf' =>
      (Json.obj arguments).Before leaf.1 leaf'.1 := by
  have fails : ∀ cause, substituteArguments arguments results = .error cause ↔
      FirstUnresolved arguments results cause :=
    fun cause => substituteArguments_eq_error_iff_firstUnresolved short
  refine ⟨fun rebuilt => ⟨fun h => ?_, fun h => ?_⟩, ⟨?_, ?_⟩, fails, ?_, Json.pairwise_leaves _⟩
  · exact (substituteArguments_eq_ok_iff.1 h).pointwise
  · exact substituteArguments_eq_ok_iff.2 h.whole
  · rintro ⟨cause, h⟩
    obtain ⟨position, reference, stands, unresolved, -⟩ := (fails cause).1 h
    exact ⟨position, reference, cause, stands, unresolved⟩
  · rintro ⟨position, reference, cause, stands, unresolved⟩
    obtain ⟨first, h⟩ := exists_firstUnresolved short stands unresolved
    exact ⟨first, (fails first).2 h⟩
  · rintro cause ⟨position, reference, -, unresolved, -⟩
    exact Reference.failure_of_resolve unresolved

namespace Sample

/-- The record of a tool that gave a text in the form of a reference. -/
def quoting : ExecutionResult :=
  ⟨0, "quote", .obj [("text", .str "$0.output.text"), ("rows", .arr [.int 1])], [], false, 0⟩

/-- Arguments with two references, one of them inside a list, and a text that is none. -/
def referring : Members :=
  [("size", .arr [.str "$0.output.text", .null]), ("note", .str "$0"),
    ("rows", .str "$0.output.rows")]

end Sample

/-- A text that was put in stays as it is, though it has the form of a reference; and without any
result the first of the references is the one in the list. -/
theorem substituteArguments_pointwise_referring :
    (∀ leaf ∈ (Json.obj Sample.referring).leaves, Reference.ShortIndex leaf.2) ∧
      Pointwise Sample.referring [Sample.quoting]
        [("size", .arr [.str "$0.output.text", .null]), ("note", .str "$0"),
          ("rows", .arr [.int 1])] ∧
      FirstUnresolved Sample.referring [] (.noResult ⟨0, ["text"], "$0.output.text"⟩ 0) := by
  have leaves : (Json.obj Sample.referring).leaves =
      [([.key "size", .index 0], "$0.output.text"), ([.key "note"], "$0"),
        ([.key "rows"], "$0.output.rows")] := by rfl
  have splitText : Reference.split? "$0.output.text".toList
      = some (['0'], ['t', 'e', 'x', 't']) := by rfl
  have splitBare : Reference.split? "$0".toList = none := by rfl
  have splitRows : Reference.split? "$0.output.rows".toList
      = some (['0'], ['r', 'o', 'w', 's']) := by rfl
  have short : ∀ leaf ∈ (Json.obj Sample.referring).leaves, Reference.ShortIndex leaf.2 := by
    simp only [leaves, List.forall_mem_cons]
    refine ⟨.of_split splitText (by decide), fun digits rest split => ?_,
      .of_split splitRows (by decide), by simp⟩
    cases splitBare.symm.trans split
  obtain ⟨gives, -⟩ := substituteArguments_pointwise Sample.referring [Sample.quoting] short
  obtain ⟨-, -, fails, -⟩ := substituteArguments_pointwise Sample.referring [] short
  exact ⟨short, (gives _).1 (by rfl), (fails _).1 (by rfl)⟩

end CallPlan
