import CallPlan.Proofs.Json.Reading
import CallPlan.Proofs.Json.Short
import Mathlib.Data.Nat.Digits.Defs

/-!
# CallPlan.Proofs.Json.Received

What a reader gives has no number of too many digits (`Json.isShort_of_readSent`). A token of a
whole number is short (`Token.isShort_of_mem_lexemes`), and whatever a reader holds between two
tokens is made of tokens that it has met (`Reader.State.IsShort`, which a step keeps).
-/

namespace CallPlan

open Json

namespace Members

/-- No number in the values of members has too many digits. -/
def IsShort (members : Members) : Prop := ∀ member ∈ members, member.2.isShort = true

theorem isShort_insert {members : Members} (short : IsShort members) {key : String} {value : Json}
    (new : value.isShort = true) : IsShort (insert members key value) := by
  induction members with
  | nil => exact List.forall_mem_singleton.2 new
  | cons member rest ih =>
      have ⟨first, others⟩ := List.forall_mem_cons.1 short
      rw [insert]
      split
      · exact List.forall_mem_cons.2 ⟨new, others⟩
      · exact List.forall_mem_cons.2 ⟨first, ih others⟩

theorem isShort_ofList {pairs : Members} (short : IsShort pairs) : IsShort (ofList pairs) := by
  have after : ∀ (pairs done : Members), IsShort pairs → IsShort done →
      IsShort (pairs.foldl (fun members member => insert members member.1 member.2) done) := by
    intro pairs
    induction pairs with
    | nil => exact fun done _ held => held
    | cons pair rest ih =>
        intro done short held
        have ⟨first, others⟩ := List.forall_mem_cons.1 short
        exact ih _ others (isShort_insert held first)
  exact after pairs [] short (by simp [IsShort])

/-- The object that a reader makes of the members it has met, the last of them first. -/
theorem isShort_document {members : Members} (short : IsShort members) :
    (Json.obj (ofList members.reverse)).isShort = true :=
  isShort_obj.2 (isShort_ofList fun member held => short member (List.mem_reverse.1 held))

end Members

/-! ### Tokens -/

namespace Token

/-- The value of a token has no number of too many digits. -/
def IsShort : Token → Prop
  | .atom value => value.isShort = true
  | .number value _ => isShortNumber value = true
  | _ => True

theorem isShort_scanNumber (negative : Bool) (cs : List Char) :
    (scanNumber negative cs).1.IsShort := by
  fun_cases scanNumber negative cs with
  | case1 | case2 | case4 => trivial
  | case3 digits first rest scanned whole _ _ _ _ _ _ _ _ _ within value =>
      have whole_digits : ∀ c ∈ whole, isDigit c = true := by
        intro c member
        simp only [whole] at member
        split at member
        · obtain rfl := List.mem_singleton.1 member
          rfl
        · exact List.all_eq_true.1 List.all_takeWhile c member
      have below : Nat.ofDigitChars 10 whole 0 < 10 ^ whole.length := by
        simpa using Text.ofDigitChars_lt whole_digits 0
      have nonempty : 0 < whole.length := by
        simp only [whole]
        split
        · exact Nat.one_pos
        · simp [scanned]
      have length := Nat.toDigits_length 10 _ _ nonempty below
      have size : (if negative = true then -value else value).natAbs
          = Nat.ofDigitChars 10 whole 0 := by
        split <;> simp [value]
      exact decide_eq_true (size ▸ Nat.le_trans length (Nat.le_of_not_lt within))

theorem isShort_scan (c : Char) (rest : List Char) : (scan c rest).1.IsShort := by
  fun_cases scan c rest with
  | case9 _ _ _ _ _ _ _ word value found =>
      have listed : ∀ entry ∈ words, entry.2.isShort = true := by decide
      exact listed _ (List.mem_of_find?_eq_some found)
  | case10 | case11 => exact isShort_scanNumber ..
  | _ => trivial

theorem isShort_of_mem_lexemes {skip : Nat} {cs : List Char} {token : Token}
    (member : token ∈ lexemes skip cs) : token.IsShort := by
  fun_induction lexemes skip cs with
  | case1 => cases member
  | case2 skip c rest ih => exact ih member
  | case3 c rest blank ih => exact ih member
  | case4 c rest noSpace cause place length scanned =>
      obtain rfl := List.mem_singleton.1 member
      trivial
  | case5 c rest noSpace other length sound scanned ih =>
      rcases List.mem_cons.1 member with rfl | later
      · have short := isShort_scan c rest
        rwa [scanned] at short
      · exact ih later

end Token

/-! ### The reader -/

namespace Reader

/-- What is open so far has no number of too many digits. -/
def Frame.IsShort : Frame → Prop
  | .list items => ∀ item ∈ items, item.isShort = true
  | .object members _ => Members.IsShort members

/-- What a phase goes on with has no number of too many digits. -/
def Phase.IsShort : Phase → Prop
  | .value | .firstItem => True
  | .firstKey members | .key members | .colon members _ => Members.IsShort members
  | .complete found => found.isShort = true

/-- What a reader holds has no number of too many digits. -/
structure State.IsShort (state : State) : Prop where
  phase : state.phase.IsShort
  stack : ∀ frame ∈ state.stack, frame.IsShort

section
variable {limits : ReadLimits} {stack : List Frame} {token : Token} {next : State}

theorem eq_ok_of_descend {result : Except (JsonFault × Nat) State}
    (descends : descend limits stack result = .ok next) : result = .ok next := by
  unfold descend at descends
  split at descends
  · split at descends
    · cases descends
    · exact descends
  · exact descends

theorem eq_of_enter {phase : Phase} (enters : enter limits phase stack = .ok next) :
    next = ⟨phase, stack⟩ := by
  unfold enter at enters
  split at enters
  · exact (Except.ok.inj (eq_ok_of_descend enters)).symm
  · exact (Except.ok.inj enters).symm

theorem isShort_of_stepValue (short : token.IsShort) (held : ∀ frame ∈ stack, frame.IsShort)
    (steps : stepValue limits stack token = .ok next) : next.IsShort := by
  cases token with
  | atom value =>
      cases steps
      exact ⟨short, held⟩
  | number value digits =>
      have number_short : (Json.num value).isShort = true := by
        simpa [Json.isShort, Json.numbers] using show isShortNumber value = true from short
      simp only [stepValue, stepNumber] at steps
      split at steps
      · split at steps
        · cases steps
        · cases steps
          exact ⟨number_short, held⟩
      · cases steps
        exact ⟨number_short, held⟩
  | str text paired =>
      simp only [stepValue] at steps
      split at steps
      · cases steps
        exact ⟨isShort_str text, held⟩
      · cases steps
  | openBracket =>
      obtain rfl := eq_of_enter steps
      exact ⟨trivial, held⟩
  | openBrace =>
      obtain rfl := eq_of_enter steps
      exact ⟨by simp [Phase.IsShort, Members.IsShort], held⟩
  | _ => cases steps

theorem isShort_of_stepKey {members : Members} (short : Members.IsShort members)
    (held : ∀ frame ∈ stack, frame.IsShort)
    (steps : stepKey limits members stack token = .ok next) : next.IsShort := by
  unfold stepKey at steps
  split at steps
  · split at steps
    · cases steps
      exact ⟨short, held⟩
    · cases steps
  all_goals cases steps

theorem isShort_of_step_complete {value : Json} (short : value.isShort = true)
    (held : ∀ frame ∈ stack, frame.IsShort)
    (steps : step limits ⟨.complete value, stack⟩ token = .ok next) : next.IsShort := by
  cases stack with
  | nil => cases steps
  | cons frame stack =>
      have ⟨inner, outer⟩ := List.forall_mem_cons.1 held
      cases frame with
      | list items =>
          have longer : ∀ item ∈ value :: items, item.isShort = true :=
            List.forall_mem_cons.2 ⟨short, inner⟩
          simp only [step] at steps
          split at steps
          · cases steps
            exact ⟨trivial, List.forall_mem_cons.2 ⟨longer, outer⟩⟩
          · cases steps
            have whole : (Json.arr (value :: items).reverse).isShort = true :=
              isShort_arr.2 fun item member => longer item (List.mem_reverse.1 member)
            exact ⟨whole, outer⟩
          · cases steps
      | object members key =>
          have longer : Members.IsShort ((key, value) :: members) :=
            List.forall_mem_cons.2 ⟨short, inner⟩
          simp only [step] at steps
          split at steps
          · cases steps
            exact ⟨longer, outer⟩
          · cases steps
            exact ⟨Members.isShort_document longer, outer⟩
          · cases steps

/-- A step puts nothing but its token into what a reader holds. -/
theorem isShort_of_step {state : State} (short : state.IsShort) (token_short : token.IsShort)
    (steps : step limits state token = .ok next) : next.IsShort := by
  obtain ⟨phase, stack⟩ := state
  obtain ⟨phase_short, held⟩ := short
  cases phase with
  | value => exact isShort_of_stepValue token_short held steps
  | firstItem =>
      simp only [step] at steps
      split at steps
      · cases steps
        exact ⟨isShort_arr.2 (by simp), held⟩
      · have opened : ∀ frame ∈ Frame.list [] :: stack, frame.IsShort :=
          List.forall_mem_cons.2 ⟨by simp [Frame.IsShort], held⟩
        exact isShort_of_stepValue token_short opened (eq_ok_of_descend steps)
  | firstKey members =>
      simp only [step] at steps
      split at steps
      · cases steps
        exact ⟨Members.isShort_document phase_short, held⟩
      · exact isShort_of_stepKey phase_short held (eq_ok_of_descend steps)
  | key members => exact isShort_of_stepKey phase_short held steps
  | colon members key =>
      simp only [step] at steps
      split at steps
      · cases steps
        exact ⟨trivial, List.forall_mem_cons.2 ⟨phase_short, held⟩⟩
      · cases steps
  | complete value => exact isShort_of_step_complete phase_short held steps

/-- Reading on from such a state gives such a value. -/
theorem isShort_of_feed {tokens : List Token} {state : State} {value : Json}
    (tokens_short : ∀ token ∈ tokens, token.IsShort) (short : state.IsShort)
    (fed : feed limits state tokens = some value) : value.isShort = true := by
  induction tokens generalizing state with
  | nil =>
      unfold feed at fed
      split at fed
      · cases fed
        exact short.phase
      · cases fed
  | cons token rest ih =>
      have ⟨first, others⟩ := List.forall_mem_cons.1 tokens_short
      rw [feed] at fed
      cases stepped : step limits state token with
      | error failed =>
          rw [stepped] at fed
          cases fed
      | ok next =>
          rw [stepped] at fed
          exact ih others (isShort_of_step short first stepped) fed

end

end Reader

namespace Json

theorem isShort_of_read {limits : ReadLimits} {cs : List Char} {value : Json}
    (read : Json.read limits cs = .ok value) : value.isShort = true := by
  have fed : Reader.feed limits ⟨.value, []⟩ (Token.lexemes 0 cs) = some value := by
    rw [← Reader.readsFrom, ← Reader.toOption_read, read]
    rfl
  have start : Reader.State.IsShort ⟨.value, []⟩ := ⟨trivial, by simp⟩
  exact Reader.isShort_of_feed (fun _ => Token.isShort_of_mem_lexemes) start fed

/-- What another program sends has no number of too many digits, if it is read. -/
theorem isShort_of_readSent {depth : Nat} {bytes : List UInt8} {value : Json}
    (read : readSent depth bytes = .ok value) : value.isShort = true := by
  unfold readSent at read
  split at read
  · exact isShort_of_read read
  · cases read

end Json

end CallPlan
