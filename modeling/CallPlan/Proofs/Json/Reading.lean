import CallPlan.Json.Reader
import CallPlan.Proofs.Json.Lexemes

/-!
# CallPlan.Proofs.Json.Reading

Reading the texts of values.

* `readsFrom limits state cs` is the value that is read of a text from a state on, without the places
  of errors. Along a text of a value the reader goes from a state in which a value may start to the
  one in which this value is complete (`readsFrom_text`), for values within its limits.
* So every document of a readable value is read as that value (`read_document`), by every reader that
  takes its levels.
-/

namespace CallPlan

open Json

namespace Members

/-! ## Distinct keys -/

theorem insert_of_not_mem {members : Members} {key : String} (value : Json)
    (absent : key ∉ keys members) : insert members key value = members ++ [(key, value)] := by
  induction members with
  | nil => rfl
  | cons member rest ih =>
      obtain ⟨other, held⟩ := member
      rw [keys, List.map_cons, List.mem_cons, not_or] at absent
      rw [insert, if_neg (Ne.symm absent.1), ih absent.2, List.cons_append]

/-- Members with distinct keys stay as they are. -/
theorem ofList_of_nodup {members : Members} (distinct : (keys members).Nodup) :
    ofList members = members := by
  have after : ∀ rest done : Members, (keys (done ++ rest)).Nodup →
      rest.foldl (fun members member => insert members member.1 member.2) done = done ++ rest := by
    intro rest
    induction rest with
    | nil => simp
    | cons member rest ih =>
        intro done distinct
        obtain ⟨key, value⟩ := member
        have absent : key ∉ keys done := by
          rw [keys, List.map_append, List.nodup_append] at distinct
          intro held
          exact distinct.2.2 _ held _ List.mem_cons_self rfl
        rw [List.append_cons] at distinct
        rw [List.foldl_cons, insert_of_not_mem value absent, ih _ distinct, ← List.append_cons]
  exact after members [] distinct

end Members

namespace ReadLimits

/-- A reader converts numbers of the usual length. -/
def Converts (limits : ReadLimits) : Prop := ∀ most ∈ limits.digits, Text.digitLimit ≤ most

/-- A reader takes so many lists and objects inside one another. -/
def Takes (limits : ReadLimits) (levels : Nat) : Prop := ∀ most ∈ limits.depth, levels ≤ most

theorem Takes.le {limits : ReadLimits} {n m : Nat} (h : limits.Takes n) (le : m ≤ n) :
    limits.Takes m := fun most member => Nat.le_trans le (h most member)

/-- What may have content may begin. -/
theorem Takes.begins {limits : ReadLimits} {n : Nat} (h : limits.Takes (n + 1)) :
    limits.Takes (n + limits.countsEmpty.toNat) :=
  h.le (Nat.add_le_add_left (Bool.toNat_le _) n)

end ReadLimits

namespace Reader

/-- What is read from a state on, if the tokens end with a value that is complete. -/
def feed (limits : ReadLimits) (state : State) : List Token → Option Json
  | [] =>
    match state with
    | ⟨.complete value, []⟩ => some value
    | _ => none
  | token :: rest => (step limits state token).toOption.bind (feed limits · rest)

theorem toOption_run (limits : ReadLimits) (endOffset : Nat) (state : State)
    (tokens : List (Token × Nat)) :
    (run limits endOffset state tokens).toOption = feed limits state (tokens.map Prod.fst) := by
  induction tokens generalizing state with
  | nil =>
      obtain ⟨phase, stack⟩ := state
      cases phase with
      | complete value => cases stack <;> rfl
      | _ => rfl
  | cons placed rest ih =>
      obtain ⟨token, offset⟩ := placed
      rw [run, List.map_cons, feed]
      cases step limits state token with
      | ok next => exact ih next
      | error failed => rfl

/-- What is read of a text from a state on. -/
def readsFrom (limits : ReadLimits) (state : State) (cs : List Char) : Option Json :=
  feed limits state (Token.lexemes 0 cs)

theorem toOption_read (limits : ReadLimits) (cs : List Char) :
    (Json.read limits cs).toOption = readsFrom limits ⟨.value, []⟩ cs := by
  have tokens := Token.map_fst_listFrom 0 0 [] cs
  rw [List.map_nil, List.reverse_nil, List.nil_append] at tokens
  rw [readsFrom, ← tokens, ← toOption_run limits cs.length, Json.read, Token.list]
  cases run limits cs.length ⟨.value, []⟩ (Token.listFrom 0 0 [] cs) <;> rfl

/-! ## One token -/

section
variable {limits : ReadLimits} {state next : State} {cs rest : List Char} {token : Token}

theorem readsFrom_blank (blank : Blank cs) (rest : List Char) :
    readsFrom limits state (cs ++ rest) = readsFrom limits state rest := by
  rw [readsFrom, Token.lexemes_blank blank, readsFrom]

/-- One token is one step. -/
theorem readsFrom_token (scans : Token.Scans cs rest token)
    (steps : step limits state token = .ok next)
    (sound : ∀ cause place, token ≠ .fault cause place) :
    readsFrom limits state (cs ++ rest) = readsFrom limits next rest := by
  rw [readsFrom, Token.lexemes_of_scans scans sound, feed, steps]
  rfl

theorem scans_mark {c : Char} (noSpace : Token.isSpace c = false)
    (scanned : Token.scan c rest = (token, 1)) : Token.Scans [c] rest token :=
  ⟨c, [], rfl, noSpace, scanned⟩

theorem descend_of_takes {stack : List Frame} (takes : limits.Takes (stack.length + 1))
    (result : Except (JsonFault × Nat) State) : descend limits stack result = result := by
  unfold descend
  split
  next most limited => rw [if_neg (Nat.not_lt.2 (takes most limited))]
  next => rfl

theorem enter_of_takes {stack : List Frame}
    (takes : limits.Takes (stack.length + limits.countsEmpty.toNat)) (phase : Phase) :
    enter limits phase stack = .ok ⟨phase, stack⟩ := by
  unfold enter
  split
  next counts =>
    rw [counts] at takes
    exact descend_of_takes takes _
  next => rfl

/-- A state in which a value may start, inside what is open. -/
def Starts (limits : ReadLimits) (state : State) (stack : List Frame) : Prop :=
  ∀ token, token ≠ .closeBracket → step limits state token = stepValue limits stack token

/-- A state in which a member may start, behind those that an open object has already. -/
def StartsMember (limits : ReadLimits) (state : State) (members : List (String × Json))
    (stack : List Frame) : Prop :=
  ∀ key, step limits state (.str key true) = .ok ⟨.colon members key, stack⟩

theorem starts_value (stack : List Frame) : Starts limits ⟨.value, stack⟩ stack :=
  fun _ _ => rfl

theorem starts_firstItem {stack : List Frame} (takes : limits.Takes (stack.length + 1)) :
    Starts limits ⟨.firstItem, stack⟩ (.list [] :: stack) := by
  intro token other
  cases token with
  | closeBracket => exact absurd rfl other
  | _ => exact descend_of_takes takes _

theorem startsMember_key (members : List (String × Json)) (stack : List Frame) :
    StartsMember limits ⟨.key members, stack⟩ members stack := fun _ => rfl

theorem startsMember_firstKey {stack : List Frame} (takes : limits.Takes (stack.length + 1)) :
    StartsMember limits ⟨.firstKey [], stack⟩ [] stack :=
  fun _ => descend_of_takes takes _

end

/-! ## Texts of values -/

section
variable {limits : ReadLimits} {state : State} {stack : List Frame} {rest : List Char}

theorem readsFrom_string {s : String} {cs : List Char} (string : StringText s cs)
    (own : Text.OfCharacters s.toList) (starts : Starts limits state stack) :
    readsFrom limits state (cs ++ rest) = readsFrom limits ⟨.complete (.str s), stack⟩ rest :=
  readsFrom_token (Token.scans_string string own rest) (starts _ nofun) nofun

theorem readsFrom_int {n : Int} {cs : List Char} (number : NumberText (.int n) cs)
    (short : (Nat.toDigits 10 n.natAbs).length ≤ Text.digitLimit) (ends : Token.Ends rest)
    (converts : limits.Converts) (starts : Starts limits state stack) :
    readsFrom limits state (cs ++ rest)
      = readsFrom limits ⟨.complete (.num (.int n)), stack⟩ rest := by
  obtain ⟨digits, few, scans⟩ := Token.scans_int number short ends
  refine readsFrom_token scans ?_ nofun
  rw [starts (.number (.int n) digits) nofun, stepValue, stepNumber]
  split
  next most limited => rw [if_neg (Nat.not_lt.2 (Nat.le_trans few (converts most limited)))]
  next => rfl

theorem readsFrom_key {key : String} {ks : List Char} {members : List (String × Json)}
    (name : KeyText key ks) (own : Text.OfCharacters key.toList)
    (starts : StartsMember limits state members stack) :
    readsFrom limits state (ks ++ ':' :: rest)
      = readsFrom limits ⟨.value, .object members key :: stack⟩ rest := by
  cases name with
  | @around before cs after blank string blank' =>
      have colon : Token.Scans [':'] rest .colon := scans_mark rfl rfl
      calc readsFrom limits state ((before ++ (cs ++ after)) ++ ':' :: rest)
        _ = readsFrom limits state (cs ++ (after ++ ':' :: rest)) := by
          rw [List.append_assoc, List.append_assoc, readsFrom_blank blank]
        _ = readsFrom limits ⟨.colon members key, stack⟩ (after ++ ':' :: rest) :=
          readsFrom_token (Token.scans_string string own _) (starts key) nofun
        _ = readsFrom limits ⟨.colon members key, stack⟩ ([':'] ++ rest) :=
          readsFrom_blank blank' _
        _ = readsFrom limits ⟨.value, .object members key :: stack⟩ rest :=
          readsFrom_token colon rfl nofun

end

theorem levels_arr {countsEmpty : Bool} {items : List Json} {cs : List Char}
    (some : ItemsText items cs) :
    levels countsEmpty (.arr items) = itemsLevels countsEmpty items + 1 := by
  cases some <;> rfl

theorem levels_obj {countsEmpty : Bool} {members : List (String × Json)} {cs : List Char}
    (some : MembersText members cs) :
    levels countsEmpty (.obj members) = membersLevels countsEmpty members + 1 := by
  cases some <;> rfl

mutual

/-- Along a text of a value the reader comes to the state in which the value is complete. -/
theorem readsFrom_text {limits : ReadLimits} {value : Json} {cs : List Char}
    (text : IsText value cs) (readable : value.Readable) (converts : limits.Converts)
    {state : State} {stack : List Frame} {rest : List Char}
    (takes : limits.Takes (stack.length + value.levels limits.countsEmpty))
    (starts : Starts limits state stack) (ends : Token.Ends rest) :
    readsFrom limits state (cs ++ rest) = readsFrom limits ⟨.complete value, stack⟩ rest := by
  cases text with
  | null => exact readsFrom_token ⟨'n', ['u', 'l', 'l'], rfl, rfl, rfl⟩ (starts _ nofun) nofun
  | true => exact readsFrom_token ⟨'t', ['r', 'u', 'e'], rfl, rfl, rfl⟩ (starts _ nofun) nofun
  | false => exact readsFrom_token ⟨'f', ['a', 'l', 's', 'e'], rfl, rfl, rfl⟩ (starts _ nofun) nofun
  | num number =>
      cases readable with
      | int short => exact readsFrom_int number short ends converts starts
  | str string =>
      cases readable with
      | str own => exact readsFrom_string string own starts
  | @noItems bs blank =>
      have first : Token.Scans ['['] (bs ++ ']' :: rest) .openBracket := scans_mark rfl rfl
      have last : Token.Scans [']'] rest .closeBracket := scans_mark rfl rfl
      calc readsFrom limits state (('[' :: (bs ++ [']'])) ++ rest)
        _ = readsFrom limits state (['['] ++ (bs ++ ']' :: rest)) := by simp
        _ = readsFrom limits ⟨.firstItem, stack⟩ (bs ++ ']' :: rest) :=
          readsFrom_token first ((starts .openBracket nofun).trans (enter_of_takes takes _)) nofun
        _ = readsFrom limits ⟨.firstItem, stack⟩ ([']'] ++ rest) := readsFrom_blank blank _
        _ = readsFrom limits ⟨.complete (.arr []), stack⟩ rest := readsFrom_token last rfl nofun
  | @arr items cs some =>
      cases readable with
      | arr each =>
          have first : Token.Scans ['['] (cs ++ ']' :: rest) .openBracket := scans_mark rfl rfl
          have takes : limits.Takes (stack.length + 1 + itemsLevels limits.countsEmpty items) :=
            takes.le (by rw [levels_arr some]; omega)
          have inside : limits.Takes (stack.length + 1) := takes.le (Nat.le_add_right _ _)
          have enters : step limits state .openBracket = .ok ⟨.firstItem, stack⟩ :=
            (starts .openBracket nofun).trans (enter_of_takes inside.begins _)
          calc readsFrom limits state (('[' :: (cs ++ [']'])) ++ rest)
            _ = readsFrom limits state (['['] ++ (cs ++ ']' :: rest)) := by simp
            _ = readsFrom limits ⟨.firstItem, stack⟩ (cs ++ ']' :: rest) :=
              readsFrom_token first enters nofun
            _ = readsFrom limits ⟨.complete (.arr items), stack⟩ rest :=
              readsFrom_items some each converts takes (starts_firstItem inside)
  | @noMembers bs blank =>
      have first : Token.Scans ['\x7b'] (bs ++ '\x7d' :: rest) .openBrace := scans_mark rfl rfl
      have last : Token.Scans ['\x7d'] rest .closeBrace := scans_mark rfl rfl
      calc readsFrom limits state (('\x7b' :: (bs ++ ['\x7d'])) ++ rest)
        _ = readsFrom limits state (['\x7b'] ++ (bs ++ '\x7d' :: rest)) := by simp
        _ = readsFrom limits ⟨.firstKey [], stack⟩ (bs ++ '\x7d' :: rest) :=
          readsFrom_token first ((starts .openBrace nofun).trans (enter_of_takes takes _)) nofun
        _ = readsFrom limits ⟨.firstKey [], stack⟩ (['\x7d'] ++ rest) := readsFrom_blank blank _
        _ = readsFrom limits ⟨.complete (.obj []), stack⟩ rest := readsFrom_token last rfl nofun
  | @obj members cs some =>
      cases readable with
      | obj distinct names each =>
          have first : Token.Scans ['\x7b'] (cs ++ '\x7d' :: rest) .openBrace := scans_mark rfl rfl
          have takes : limits.Takes (stack.length + 1 + membersLevels limits.countsEmpty members) :=
            takes.le (by rw [levels_obj some]; omega)
          have inside : limits.Takes (stack.length + 1) := takes.le (Nat.le_add_right _ _)
          have enters : step limits state .openBrace = .ok ⟨.firstKey [], stack⟩ :=
            (starts .openBrace nofun).trans (enter_of_takes inside.begins _)
          calc readsFrom limits state (('\x7b' :: (cs ++ ['\x7d'])) ++ rest)
            _ = readsFrom limits state (['\x7b'] ++ (cs ++ '\x7d' :: rest)) := by simp
            _ = readsFrom limits ⟨.firstKey [], stack⟩ (cs ++ '\x7d' :: rest) :=
              readsFrom_token first enters nofun
            _ = readsFrom limits ⟨.complete (.obj (Members.ofList members)), stack⟩ rest :=
              readsFrom_members some names each converts takes (startsMember_firstKey inside)
            _ = readsFrom limits ⟨.complete (.obj members), stack⟩ rest := by
              rw [Members.ofList_of_nodup distinct]

theorem readsFrom_document {limits : ReadLimits} {value : Json} {cs : List Char}
    (text : Document value cs) (readable : value.Readable) (converts : limits.Converts)
    {state : State} {stack : List Frame} {rest : List Char}
    (takes : limits.Takes (stack.length + value.levels limits.countsEmpty))
    (starts : Starts limits state stack) (ends : Token.Ends rest) :
    readsFrom limits state (cs ++ rest) = readsFrom limits ⟨.complete value, stack⟩ rest := by
  cases text with
  | around blank text blank' =>
      rw [List.append_assoc, List.append_assoc, readsFrom_blank blank,
        readsFrom_text text readable converts takes starts (ends.behind blank'),
        readsFrom_blank blank']

theorem readsFrom_items {limits : ReadLimits} {items : List Json} {cs : List Char}
    (text : ItemsText items cs) (each : ∀ item ∈ items, item.Readable)
    (converts : limits.Converts) {state : State} {stack : List Frame} {done : List Json}
    {rest : List Char} (takes : limits.Takes (stack.length + 1 + itemsLevels limits.countsEmpty items))
    (starts : Starts limits state (.list done :: stack)) :
    readsFrom limits state (cs ++ ']' :: rest)
      = readsFrom limits ⟨.complete (.arr (done.reverse ++ items)), stack⟩ rest := by
  cases text with
  | @last item cs text =>
      have close : Token.Scans [']'] rest .closeBracket := scans_mark rfl rfl
      have inside : limits.Takes ((Frame.list done :: stack).length + item.levels limits.countsEmpty) :=
        takes.le (by simp [itemsLevels])
      rw [readsFrom_document text (each item List.mem_cons_self) converts inside starts
        (Token.ends_mark (.inr (.inl rfl)) rest)]
      exact readsFrom_token close (by simp [step]) nofun
  | @more item others cs ds text more =>
      have comma : Token.Scans [','] (ds ++ ']' :: rest) .comma := scans_mark rfl rfl
      have inside : limits.Takes ((Frame.list done :: stack).length + item.levels limits.countsEmpty) :=
        takes.le (by rw [List.length_cons, itemsLevels]; omega)
      have behind : limits.Takes (stack.length + 1 + itemsLevels limits.countsEmpty others) :=
        takes.le (by rw [itemsLevels]; omega)
      have rest_each : ∀ other ∈ others, other.Readable :=
        fun other member => each other (List.mem_cons_of_mem _ member)
      rw [List.append_assoc, List.cons_append,
        readsFrom_document text (each item List.mem_cons_self) converts inside starts
          (Token.ends_mark (.inl rfl) _)]
      calc readsFrom limits ⟨.complete item, .list done :: stack⟩ ([','] ++ (ds ++ ']' :: rest))
        _ = readsFrom limits ⟨.value, .list (item :: done) :: stack⟩ (ds ++ ']' :: rest) :=
          readsFrom_token comma rfl nofun
        _ = readsFrom limits ⟨.complete (.arr ((item :: done).reverse ++ others)), stack⟩ rest :=
          readsFrom_items more rest_each converts behind (starts_value _)
        _ = readsFrom limits ⟨.complete (.arr (done.reverse ++ item :: others)), stack⟩ rest := by
          rw [List.reverse_cons, ← List.append_cons]

theorem readsFrom_members {limits : ReadLimits} {members : List (String × Json)} {cs : List Char}
    (text : MembersText members cs)
    (names : ∀ member ∈ members, Text.OfCharacters member.1.toList)
    (each : ∀ member ∈ members, member.2.Readable) (converts : limits.Converts) {state : State}
    {stack : List Frame} {done : List (String × Json)} {rest : List Char}
    (takes : limits.Takes (stack.length + 1 + membersLevels limits.countsEmpty members))
    (starts : StartsMember limits state done stack) :
    readsFrom limits state (cs ++ '\x7d' :: rest)
      = readsFrom limits
          ⟨.complete (.obj (Members.ofList (done.reverse ++ members))), stack⟩ rest := by
  cases text with
  | @last key value ks cs name text =>
      have close : Token.Scans ['\x7d'] rest .closeBrace := scans_mark rfl rfl
      have inside : limits.Takes ((Frame.object done key :: stack).length +
          value.levels limits.countsEmpty) :=
        takes.le (by simp [membersLevels])
      rw [List.append_assoc, List.cons_append,
        readsFrom_key name (names _ List.mem_cons_self) starts,
        readsFrom_document text (each _ List.mem_cons_self) converts inside (starts_value _)
          (Token.ends_mark (.inr (.inr rfl)) rest)]
      exact readsFrom_token close (by simp [step]) nofun
  | @more key value others ks cs ds name text more =>
      have comma : Token.Scans [','] (ds ++ '\x7d' :: rest) .comma := scans_mark rfl rfl
      have inside : limits.Takes ((Frame.object done key :: stack).length +
          value.levels limits.countsEmpty) :=
        takes.le (by rw [List.length_cons, membersLevels]; omega)
      have behind : limits.Takes (stack.length + 1 + membersLevels limits.countsEmpty others) :=
        takes.le (by rw [membersLevels]; omega)
      have rest_names : ∀ other ∈ others, Text.OfCharacters other.1.toList :=
        fun other member => names other (List.mem_cons_of_mem _ member)
      have rest_each : ∀ other ∈ others, other.2.Readable :=
        fun other member => each other (List.mem_cons_of_mem _ member)
      rw [List.append_assoc, List.cons_append, List.append_assoc, List.cons_append,
        readsFrom_key name (names _ List.mem_cons_self) starts,
        readsFrom_document text (each _ List.mem_cons_self) converts inside (starts_value _)
          (Token.ends_mark (.inl rfl) _)]
      calc readsFrom limits ⟨.complete value, .object done key :: stack⟩
            ([','] ++ (ds ++ '\x7d' :: rest))
        _ = readsFrom limits ⟨.key ((key, value) :: done), stack⟩ (ds ++ '\x7d' :: rest) :=
          readsFrom_token comma rfl nofun
        _ = readsFrom limits ⟨.complete (.obj (Members.ofList
              (((key, value) :: done).reverse ++ others))), stack⟩ rest :=
          readsFrom_members more rest_names rest_each converts behind (startsMember_key _ _)
        _ = readsFrom limits ⟨.complete (.obj (Members.ofList
              (done.reverse ++ (key, value) :: others))), stack⟩ rest := by
          rw [List.reverse_cons, ← List.append_cons]

end

end Reader

/-- A document of a readable value is read as the value. -/
theorem Json.read_document {limits : ReadLimits} {value : Json} {cs : List Char}
    (document : Document value cs) (readable : value.Readable) (converts : limits.Converts)
    (takes : limits.Takes (value.levels limits.countsEmpty)) : Json.read limits cs = .ok value := by
  have ends : Token.Ends [] := nofun
  have takes : limits.Takes (([] : List Reader.Frame).length + value.levels limits.countsEmpty) :=
    takes.le (Nat.le_of_eq (Nat.zero_add _))
  have found := Reader.readsFrom_document document readable converts takes
    (Reader.starts_value []) ends
  rw [List.append_nil, ← Reader.toOption_read] at found
  cases result : Json.read limits cs with
  | ok other =>
      rw [result] at found
      cases found
      rfl
  | error cause =>
      rw [result] at found
      cases found

theorem ReadLimits.converts_strict : ReadLimits.strict.Converts := by
  intro most limited
  cases limited
  exact Nat.le_refl _

/-- A document of a readable value becomes this value where it is to become a record. -/
theorem Json.readStrict?_document {value : Json} {text : String}
    (document : Document value text.toList) (readable : value.Readable)
    (takes : ReadLimits.strict.Takes value.nesting) : Json.readStrict? text = some value := by
  rw [Json.readStrict?, read_document document readable ReadLimits.converts_strict takes]
  rfl

end CallPlan
