import CallPlan.Proofs.Text.Characters
import CallPlan.Proofs.Time.Calendar
import CallPlan.Record.Scalar

/-!
# CallPlan.Proofs.Time.Reading

A point in time is read from its text.

* `DateTime.OnCalendar` says that a reading is in the years 1 to 9999, and its zone less than a day
  ahead or behind. A point in time of this kind is read from what is written of it
  (`DateTime.ofText?_text`).
* A record has no other points in time (`Record.onCalendar_of_dateTime`).
-/

namespace CallPlan

namespace DateTime

/-- A reading up to the year 9999, with a zone that can be written. -/
structure Bounded (t : DateTime) : Prop where
  last : t.micros < latest
  zone : ∀ minutes ∈ t.offset, minutes.natAbs < 1440

/-- A point in time that has a date, and a zone that can be written. -/
structure OnCalendar (t : DateTime) : Prop extends Bounded t where
  first : dayNumber 1 1 1 * microsPerDay ≤ t.micros

/-! ## Digits -/

/-- A decimal digit of a date. -/
def IsDigit (c : Char) : Prop := ('0' ≤ c && c ≤ '9') = true

section
variable {width n : Nat}

theorem length_padded (some : 0 < width) (short : n < 10 ^ width) :
    (padded width n).length = width := by
  have digits : (Nat.toDigits 10 n).length ≤ width :=
    (Nat.length_toDigits_le_iff (by decide) some).2 short
  rw [padded, List.length_append, List.length_replicate]
  omega

theorem isDigit_of_mem_padded {c : Char} (h : c ∈ padded width n) : IsDigit c := by
  rcases List.mem_append.1 h with zero | digit
  · rw [List.eq_of_mem_replicate zero]
    rfl
  · exact Nat.isDigit_of_mem_toDigits (by decide) (by decide) digit

/-- Zeros in front do not change a number. -/
theorem ofDigitChars_padded (width n : Nat) : Nat.ofDigitChars 10 (padded width n) 0 = n := by
  rw [padded, Nat.ofDigitChars_append, Nat.ofDigitChars_replicate_zero, Nat.mul_zero,
    Nat.ofDigitChars_toDigits (by decide) (by decide)]

theorem takeDigits_padded (some : 0 < width) (short : n < 10 ^ width) (rest : List Char) :
    takeDigits width (padded width n ++ rest) = .some (n, rest) := by
  have length_eq := length_padded some short
  have digits : (padded width n).all (fun c => '0' ≤ c && c ≤ '9') = true :=
    List.all_eq_true.2 fun c => isDigit_of_mem_padded
  rw [takeDigits, List.take_left' length_eq, List.drop_left' length_eq, length_eq, digits,
    ofDigitChars_padded]
  simp

end

/-- A mark that is expected is passed over. -/
theorem expect_self (mark : Char) (rest : List Char) :
    expect (· = mark) (mark :: rest) = some rest := by
  simp [expect]

/-! ## Dates -/

/-- The text of a date. -/
def dateChars (year month day : Nat) : List Char :=
  padded 4 year ++ '-' :: padded 2 month ++ '-' :: padded 2 day

theorem takeDate_dateChars {year month day : Nat} (date : IsDate year month day)
    (short : year ≤ 9999) (rest : List Char) :
    takeDate (dateChars year month day ++ rest) = some (dayNumber year month day, rest) := by
  have months := date.months
  have days := date.days
  have few := daysInMonth_le year month
  simp only [takeDate, dateChars, List.append_assoc, List.cons_append]
  rw [takeDigits_padded (by decide) (by omega)]
  simp only [Option.bind_eq_bind, Option.bind_some, expect_self]
  rw [takeDigits_padded (by decide) (by omega)]
  simp only [Option.bind_some, expect_self]
  rw [takeDigits_padded (by decide) (by omega)]
  simp [months, days]

/-! ## Times of day -/

/-- The text of a time of day: seconds, and microseconds if there are any. -/
def timeChars (seconds fraction : Nat) : List Char :=
  padded 2 (seconds / 3600) ++ ':' :: padded 2 (seconds / 60 % 60) ++ ':' ::
    padded 2 (seconds % 60) ++ (if fraction = 0 then [] else '.' :: padded 6 fraction)

/-- What may follow a time of day: it does not go on. -/
def Ends (rest : List Char) : Prop :=
  ∀ c ∈ rest.head?, ('0' ≤ c && c ≤ '9') = false ∧ c ≠ '.' ∧ c ≠ ','

theorem fractionMicros_padded {fraction : Nat} (short : fraction < 1000000) :
    fractionMicros (padded 6 fraction) = fraction := by
  have length_eq : (padded 6 fraction).length = 6 := length_padded (by decide) short
  rw [fractionMicros, List.take_left' length_eq, ofDigitChars_padded]

/-- What follows the seconds of a time of day. -/
theorem expect_of_ends {rest : List Char} (ends : Ends rest) :
    expect (fun c => c = '.' || c = ',') rest = none := by
  cases rest with
  | nil => rfl
  | cons c rest =>
      obtain ⟨-, noPoint, noComma⟩ := ends c rfl
      simp [expect, noPoint, noComma]

theorem takeWhile_padded {rest : List Char} (ends : Ends rest) (width n : Nat) :
    (padded width n ++ rest).takeWhile (fun c => '0' ≤ c && c ≤ '9') = padded width n := by
  rw [List.takeWhile_append_of_pos fun c => isDigit_of_mem_padded]
  cases rest with
  | nil => simp
  | cons c rest => simp [(ends c rfl).1]

theorem takeTime_timeChars {seconds fraction : Nat} (day : seconds < 86400)
    (short : fraction < 1000000) {rest : List Char} (ends : Ends rest) :
    takeTime (timeChars seconds fraction ++ rest) = some (seconds * 1000000 + fraction, rest) := by
  have early : ¬ 23 < seconds / 3600 := by omega
  have minutes : ¬ 59 < seconds / 60 % 60 := by omega
  have late : ¬ 59 < seconds % 60 := by omega
  simp only [takeTime, timeChars, List.append_assoc, List.cons_append]
  rw [takeDigits_padded (by decide) (by omega)]
  simp only [Option.bind_eq_bind, Option.bind_some, expect_self]
  rw [takeDigits_padded (by decide) (by omega)]
  simp only [Option.bind_some, early, minutes, decide_false, Bool.or_false, Bool.false_eq_true,
    if_false]
  rw [takeDigits_padded (by decide) (by omega)]
  simp only [Option.bind_some, late, if_false]
  have whole : (seconds / 3600 * 3600 + seconds / 60 % 60 * 60) * 1000000 + seconds % 60 * 1000000
      = seconds * 1000000 := by omega
  rw [whole]
  by_cases zero : fraction = 0
  · simp [zero, expect_of_ends ends]
  · have point : ∀ cs, expect (fun c => c = '.' || c = ',') ('.' :: cs) = some cs := fun _ => rfl
    have some : (padded 6 fraction).isEmpty = false := by
      rw [List.isEmpty_eq_false_iff]
      exact List.ne_nil_of_length_pos (by rw [length_padded (by decide) short]; decide)
    simp only [zero, if_false, List.cons_append, point, takeWhile_padded ends, some,
      Bool.false_eq_true, fractionMicros_padded short, List.drop_left]

/-! ## Zones -/

theorem ends_zoneChars (offset : Option Int) : Ends (zoneChars offset) := by
  intro c first
  cases offset with
  | none => cases first
  | some minutes =>
      rw [zoneChars] at first
      split at first
      · cases first
        decide
      · cases first
        split <;> decide

/-- The hours and minutes of a zone, behind a sign. -/
def signedZone? (negative : Bool) (cs : List Char) : Option (Option Int) := do
  let (hours, rest) ← takeDigits 2 cs
  let (minutes, rest) ← takeDigits 2 ((expect (· = ':') rest).getD rest)
  if minutes < 60 && hours < 24 && rest.isEmpty then
    let total : Int := (hours * 60 + minutes : Nat)
    some (some (if negative then -total else total))
  else none

theorem zone?_cons (c : Char) {rest : List Char} (some : rest ≠ []) :
    zone? (c :: rest) = if c = '+' then signedZone? false rest
      else if c = '-' || c = '\u2212' then signedZone? true rest else none := by
  rw [zone?]
  · split
    · rfl
    · split <;> rfl
  · exact some

theorem signedZone?_padded (negative : Bool) {total : Nat} (short : total < 1440) :
    signedZone? negative (padded 2 (total / 60) ++ ':' :: padded 2 (total % 60))
      = some (some (if negative then -(total : Int) else total)) := by
  have hours : total / 60 < 24 := by omega
  have minutes : total % 60 < 60 := by omega
  have whole : total / 60 * 60 + total % 60 = total := by omega
  have last : takeDigits 2 (padded 2 (total % 60)) = some (total % 60, []) := by
    have small : total % 60 < 10 ^ 2 := by omega
    have taken := takeDigits_padded (by decide) small []
    rwa [List.append_nil] at taken
  rw [signedZone?, takeDigits_padded (by decide) (by omega)]
  simp only [Option.bind_eq_bind, Option.bind_some, expect_self, Option.getD_some, last, hours,
    minutes, whole, List.isEmpty_nil, decide_true, Bool.and_self, if_true]

theorem zone?_zoneChars {offset : Option Int} (h : ∀ minutes ∈ offset, minutes.natAbs < 1440) :
    zone? (zoneChars offset) = some offset := by
  cases offset with
  | none => rfl
  | some minutes =>
      have some : padded 2 (minutes.natAbs / 60) ++ ':' :: padded 2 (minutes.natAbs % 60) ≠ [] :=
        List.append_ne_nil_of_right_ne_nil _ (List.cons_ne_nil _ _)
      rw [zoneChars]
      split
      next zero =>
        rw [zero]
        rfl
      next =>
        rw [zone?_cons _ some]
        by_cases negative : minutes < 0
        · have total : -(minutes.natAbs : Int) = minutes := by omega
          have signed := signedZone?_padded true (h minutes rfl)
          rw [if_pos rfl, total] at signed
          rw [if_pos negative]
          exact signed
        · have total : (minutes.natAbs : Int) = minutes := by omega
          have signed := signedZone?_padded false (h minutes rfl)
          rw [if_neg Bool.false_ne_true, total] at signed
          rw [if_neg negative, if_pos rfl]
          exact signed

/-! ## Points in time -/

/-- A reading is on a day of the calendar, so many microseconds after its start. -/
theorem OnCalendar.exists_day {t : DateTime} (h : t.OnCalendar) :
    ∃ micros : Nat, micros < 86400000000 ∧ (t.micros.fmod microsPerDay).toNat = micros ∧
      t.micros = t.micros.fdiv microsPerDay * microsPerDay + micros ∧
      dayNumber 1 1 1 ≤ t.micros.fdiv microsPerDay ∧
      t.micros.fdiv microsPerDay < dayNumber 10000 1 1 := by
  have first := h.first
  have last := h.last
  rw [latest] at last
  unfold microsPerDay at first last ⊢
  rw [Int.fdiv_eq_ediv_of_nonneg _ (by decide), Int.fmod_eq_emod_of_nonneg _ (by decide)]
  generalize dayNumber 1 1 1 = start at first ⊢
  generalize dayNumber 10000 1 1 = stop at last ⊢
  exact ⟨(t.micros % 86400000000).toNat, by omega, rfl, by omega, by omega, by omega⟩

/-- The text of a point in time, with its date. -/
theorem toList_text {t : DateTime} {year month day micros : Nat}
    (date : ofDayNumber (t.micros.fdiv microsPerDay) = ((year : Int), month, day))
    (inDay : (t.micros.fmod microsPerDay).toNat = micros) :
    t.text.toList = dateChars year month day ++
      'T' :: (timeChars (micros / 1000000) (micros % 1000000) ++ zoneChars t.offset) := by
  simp only [text, date, inDay, String.toList_ofList, dateChars, timeChars, Int.toNat_natCast,
    List.append_assoc, List.cons_append]

theorem low_of_mem_padded {width n : Nat} : ∀ c ∈ padded width n, c.toNat < 0xf0000 := by
  intro c member
  have digit := isDigit_of_mem_padded member
  rw [IsDigit, Bool.and_eq_true, decide_eq_true_eq, decide_eq_true_eq] at digit
  exact Nat.lt_of_le_of_lt digit.2 (by decide)

/-- A point in time is written in plain characters. -/
theorem low_text (t : DateTime) : ∀ c ∈ t.text.toList, c.toNat < 0xf0000 := by
  have zone : ∀ c ∈ zoneChars t.offset, c.toNat < 0xf0000 := by
    cases t.offset with
    | none => exact nofun
    | some minutes =>
        rw [zoneChars]
        split
        · simp
        · simp only [List.forall_mem_cons, List.forall_mem_append]
          refine ⟨?_, low_of_mem_padded, by decide, low_of_mem_padded⟩
          split <;> decide
  have fraction : ∀ n, ∀ c ∈ (if n = 0 then [] else '.' :: padded 6 n), c.toNat < 0xf0000 := by
    intro n
    split
    · exact nofun
    · exact List.forall_mem_cons.2 ⟨by decide, low_of_mem_padded⟩
  have dash : '-'.toNat < 0xf0000 := by decide
  have middle : 'T'.toNat < 0xf0000 := by decide
  have colon : ':'.toNat < 0xf0000 := by decide
  have digits : ∀ width n, ∀ c ∈ padded width n, c.toNat < 0xf0000 := @low_of_mem_padded
  simp only [text, String.toList_ofList, List.forall_mem_append, List.forall_mem_cons]
  exact ⟨⟨⟨⟨⟨⟨⟨digits _ _, dash, digits _ _⟩, dash, digits _ _⟩, middle, digits _ _⟩, colon,
    digits _ _⟩, colon, digits _ _⟩, fraction _⟩, zone⟩

/-- A point in time is read from its text. -/
theorem ofText?_text {t : DateTime} (h : t.OnCalendar) : ofText? t.text = some t := by
  obtain ⟨micros, small, inDay, micros_eq, first, last⟩ := h.exists_day
  obtain ⟨year, month, day, date, -, short, isDate, number⟩ := exists_date first last
  have mark : ∀ cs, expect (fun c => c = 'T' || c = 't' || c = ' ' || c = '_') ('T' :: cs)
      = some cs := fun _ => rfl
  have calendar : ofCalendar? t.text.toList = some t := by
    rw [toList_text date inDay, ofCalendar?, takeDate_dateChars isDate short]
    simp only [Option.bind_eq_bind, Option.bind_some, mark]
    rw [takeTime_timeChars (by omega) (by omega) (ends_zoneChars t.offset)]
    simp only [Option.bind_some]
    rw [zone?_zoneChars h.zone, number]
    have whole : micros / 1000000 * 1000000 + micros % 1000000 = micros := by omega
    rw [whole, ← micros_eq]
    rfl
  rw [ofText?, calendar]

/-! ## What is read -/

theorem takeDigits_lt {count n : Nat} {cs rest : List Char}
    (h : takeDigits count cs = some (n, rest)) : n < 10 ^ count := by
  unfold takeDigits at h
  dsimp only at h
  split at h
  next taken =>
    rw [Bool.and_eq_true, decide_eq_true_eq, List.all_eq_true] at taken
    obtain ⟨length_eq, digits⟩ := taken
    cases h
    have small := Text.ofDigitChars_lt digits 0
    rwa [length_eq, Nat.zero_add, Nat.one_mul] at small
  next => cases h

theorem exists_takeDate {cs rest : List Char} {n : Int} (h : takeDate cs = some (n, rest)) :
    ∃ year month day : Nat, year ≤ 9999 ∧ IsDate year month day ∧ n = dayNumber year month day := by
  simp only [takeDate, Option.bind_eq_bind, Option.bind_eq_some_iff] at h
  obtain ⟨⟨year, _⟩, years, _, -, ⟨month, _⟩, -, _, -, ⟨day, _⟩, -, h⟩ := h
  have short := takeDigits_lt years
  split at h
  next fits =>
    simp only [Bool.and_eq_true, decide_eq_true_eq] at fits
    cases h
    exact ⟨year, month, day, by omega, ⟨⟨fits.1.1.1, fits.1.1.2⟩, ⟨fits.1.2, fits.2⟩⟩, rfl⟩
  next => cases h

theorem fractionMicros_lt {digits : List Char} (h : ∀ d ∈ digits, IsDigit d) :
    fractionMicros digits < 1000000 := by
  have padding : ∀ d ∈ (digits ++ List.replicate 6 '0').take 6, IsDigit d := by
    intro d member
    rcases List.mem_append.1 (List.mem_of_mem_take member) with own | zero
    · exact h d own
    · rw [List.eq_of_mem_replicate zero]
      rfl
  have small := Text.ofDigitChars_lt padding 0
  have length_eq : ((digits ++ List.replicate 6 '0').take 6).length = 6 := by
    simp
  rwa [length_eq] at small

theorem takeTime_lt {cs rest : List Char} {micros : Nat} (h : takeTime cs = some (micros, rest)) :
    micros < 86400000000 := by
  simp only [takeTime, Option.bind_eq_bind, Option.bind_eq_some_iff] at h
  obtain ⟨⟨hour, _⟩, -, _, -, ⟨minute, after⟩, -, h⟩ := h
  split at h
  next => cases h
  next hours =>
    simp only [Bool.or_eq_true, decide_eq_true_eq, not_or] at hours
    split at h
    next =>
      simp only [Option.bind_eq_some_iff] at h
      obtain ⟨⟨second, _⟩, -, h⟩ := h
      split at h
      next => cases h
      next seconds =>
        split at h
        next fraction _ =>
          split at h
          next => cases h
          next =>
            have small : fractionMicros (fraction.takeWhile fun c => '0' ≤ c && c ≤ '9')
                < 1000000 := fractionMicros_lt fun d => List.all_eq_true.1 List.all_takeWhile d
            cases h
            omega
        next =>
          cases h
          omega
    next =>
      cases h
      omega

theorem signedZone?_lt {negative : Bool} {cs : List Char} {total : Int}
    (h : signedZone? negative cs = some (some total)) : total.natAbs < 1440 := by
  simp only [signedZone?, Option.bind_eq_bind, Option.bind_eq_some_iff] at h
  obtain ⟨⟨hours, _⟩, -, ⟨minutes, _⟩, -, h⟩ := h
  split at h
  next fits =>
    simp only [Bool.and_eq_true, decide_eq_true_eq] at fits
    simp only [Option.some.injEq] at h
    cases negative with
    | true =>
        rw [if_pos rfl] at h
        omega
    | false =>
        rw [if_neg Bool.false_ne_true] at h
        omega
  next => cases h

theorem zone?_lt {cs : List Char} {total : Int} (h : zone? cs = some (some total)) :
    total.natAbs < 1440 := by
  match cs with
  | [] => cases h
  | [c] =>
      rw [zone?, Option.ite_none_right_eq_some] at h
      cases h.2
      decide
  | c :: d :: rest =>
      rw [zone?_cons c (List.cons_ne_nil d rest)] at h
      split at h
      next => exact signedZone?_lt h
      next =>
        split at h
        next => exact signedZone?_lt h
        next => cases h

section
variable {cs : List Char} {t : DateTime}

theorem bounded_of_ofCalendar? (h : ofCalendar? cs = some t) : t.Bounded := by
  simp only [ofCalendar?, Option.bind_eq_bind, Option.bind_eq_some_iff] at h
  obtain ⟨⟨n, rest⟩, date, h⟩ := h
  obtain ⟨year, month, day, short, isDate, rfl⟩ := exists_takeDate date
  have before := isDate.dayNumber_lt short
  generalize dayNumber year month day = n at before h
  split at h
  next =>
    cases h
    refine ⟨?_, nofun⟩
    show n * microsPerDay < dayNumber 10000 1 1 * microsPerDay
    rw [microsPerDay]
    omega
  next =>
    simp only [Option.bind_eq_some_iff] at h
    obtain ⟨_, -, ⟨micros, _⟩, time, offset, zone, h⟩ := h
    have small := takeTime_lt time
    cases h
    refine ⟨?_, ?_⟩
    · show n * microsPerDay + micros < dayNumber 10000 1 1 * microsPerDay
      rw [microsPerDay]
      omega
    · rintro minutes rfl
      exact zone?_lt zone

theorem bounded_of_ofMicros? {micros : Int} (h : ofMicros? micros = some t) : t.Bounded := by
  unfold ofMicros? at h
  split at h
  next range =>
    simp only [Bool.and_eq_true, decide_eq_true_eq] at range
    cases h
    refine ⟨range.2, ?_⟩
    rintro minutes ⟨⟩
    decide
  next => cases h

theorem bounded_of_ofFloatSeconds? {x : Binary64} (h : ofFloatSeconds? x = some t) :
    t.Bounded := by
  simp only [ofFloatSeconds?, Option.bind_eq_bind, Option.bind_eq_some_iff] at h
  obtain ⟨_, -, _, -, _, -, found⟩ := h
  exact bounded_of_ofMicros? found

theorem bounded_of_ofNumeric? (h : ofNumeric? cs = some t) : t.Bounded := by
  unfold ofNumeric? at h
  dsimp only at h
  split at h
  next =>
    rw [Option.ite_none_left_eq_some] at h
    exact bounded_of_ofMicros? h.2
  next =>
    split at h
    next =>
      obtain ⟨_, -, found⟩ := Option.bind_eq_some_iff.1 h
      exact bounded_of_ofFloatSeconds? found
    next => cases h

theorem bounded_of_ofText? {s : String} (h : ofText? s = some t) : t.Bounded := by
  rw [ofText?] at h
  split at h
  next _ calendar =>
    cases h
    exact bounded_of_ofCalendar? calendar
  next => exact bounded_of_ofNumeric? h

end

end DateTime

namespace Record

theorem onCalendar_of_commonEra {found t : DateTime} (bounded : found.Bounded)
    (h : commonEra found = .ok t) : t.OnCalendar := by
  unfold commonEra at h
  split at h
  next first =>
    cases h
    exact ⟨bounded, of_decide_eq_true first⟩
  next => cases h

/-- A point in time of a record is on the calendar. -/
theorem onCalendar_of_dateTime {origin : Origin} {value : Json} {t : DateTime}
    (h : dateTime origin value = .ok t) : t.OnCalendar := by
  -- whichever way it was read, it is bounded, and checked to be in the year 1 or later
  unfold dateTime at h
  dsimp only at h
  split at h
  next =>
    split at h
    next read => exact onCalendar_of_commonEra (DateTime.bounded_of_ofText? read) h
    next => cases h
  next =>
    split at h
    next =>
      split at h
      next read => exact onCalendar_of_commonEra (DateTime.bounded_of_ofMicros? read) h
      next => cases h
    next => split at h <;> cases h
  next =>
    split at h
    next read => exact onCalendar_of_commonEra (DateTime.bounded_of_ofFloatSeconds? read) h
    next => cases h
  next => cases h

end Record

end CallPlan
