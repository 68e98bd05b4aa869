import CallPlan.Number.Arithmetic
import CallPlan.Number.Text
import CallPlan.Text.Blank

/-!
# CallPlan.Time.DateTime

Points in time, their calendar form and the texts and numbers they are read from.

* A `DateTime` is a wall-clock reading in microseconds since the start of 1970, with the offset of
  its zone if it names one.
* It is written as `2024-05-06T07:08:09Z`: six digits of fraction only if it is not zero, `Z` for a
  zero offset, and nothing for a reading without a zone.
* `DateTime.ofText?` reads calendar texts and numeric texts, `DateTime.ofSeconds?` counts of seconds
  since 1970; counts above `2e10` are taken for milliseconds.
-/

namespace CallPlan

/-- A wall-clock reading, with the offset of its zone in minutes if it has one. -/
structure DateTime where
  /-- Microseconds of the wall clock since the start of 1970. -/
  micros : Int
  /-- Minutes by which the wall clock is ahead of UTC. Texts of zones name whole minutes; a zone that
  is ahead by a fraction of one is not represented. -/
  offset : Option Int
  deriving DecidableEq, Inhabited

namespace DateTime

/-! ## The calendar -/

/-- The day number of a calendar date; 1970-01-01 is day 0. Years are counted from March, so that
the leap day ends them. -/
def dayNumber (year month day : Nat) : Int :=
  let year : Int := if month ≤ 2 then (year : Int) - 1 else year
  let fromMarch : Int := if month ≤ 2 then (month : Int) + 9 else (month : Int) - 3
  year * 365 + year.fdiv 4 - year.fdiv 100 + year.fdiv 400 + (153 * fromMarch + 2).fdiv 5 +
    (day : Int) - 1 - 719468

/-- The calendar date of a day number: year, month and day. -/
def ofDayNumber (day : Int) : Int × Nat × Nat :=
  let shifted := day + 719468
  let era := shifted.fdiv 146097
  let dayOfEra := (shifted.fmod 146097).toNat
  let yearOfEra := (dayOfEra - dayOfEra / 1460 + dayOfEra / 36524 - dayOfEra / 146096) / 365
  let dayOfYear := dayOfEra - (365 * yearOfEra + yearOfEra / 4 - yearOfEra / 100)
  let fromMarch := (5 * dayOfYear + 2) / 153
  let month := if fromMarch < 10 then fromMarch + 3 else fromMarch - 9
  let year := (yearOfEra : Int) + era * 400
  (if month ≤ 2 then year + 1 else year, month, dayOfYear - (153 * fromMarch + 2) / 5 + 1)

/-- Whether a year has a leap day. -/
def isLeapYear (year : Nat) : Bool := year % 4 = 0 && (year % 100 ≠ 0 || year % 400 = 0)

/-- The number of days of a month. -/
def daysInMonth (year month : Nat) : Nat :=
  if month = 2 then (if isLeapYear year then 29 else 28)
  else if month = 4 || month = 6 || month = 9 || month = 11 then 30
  else 31

/-! ## Writing -/

/-- A number in decimal, with zeros before it up to a width. -/
def padded (width n : Nat) : List Char :=
  let digits := Nat.toDigits 10 n
  List.replicate (width - digits.length) '0' ++ digits

/-- The microseconds of a day. -/
def microsPerDay : Int := 86400000000

/-- The written form of a zone. -/
def zoneChars : Option Int → List Char
  | none => []
  | some minutes =>
    if minutes = 0 then ['Z']
    else
      (if minutes < 0 then '-' else '+') ::
        (padded 2 (minutes.natAbs / 60) ++ ':' :: padded 2 (minutes.natAbs % 60))

/-- The written form of a point in time. -/
def text (t : DateTime) : String :=
  let (year, month, day) := ofDayNumber (t.micros.fdiv microsPerDay)
  let micros := (t.micros.fmod microsPerDay).toNat
  let seconds := micros / 1000000
  let fraction := micros % 1000000
  String.ofList <|
    padded 4 year.toNat ++ '-' :: padded 2 month ++ '-' :: padded 2 day ++ 'T' ::
      padded 2 (seconds / 3600) ++ ':' :: padded 2 (seconds / 60 % 60) ++ ':' ::
      padded 2 (seconds % 60) ++ (if fraction = 0 then [] else '.' :: padded 6 fraction) ++
      zoneChars t.offset

/-- A point in time given in microseconds since the start of 1970 in UTC. -/
def utc (micros : Int) : DateTime := ⟨micros, some 0⟩

/-! ## Reading counts of seconds -/

/-- Counts above this are milliseconds. -/
def secondsLimit : Nat := 20000000000

/-- The microsecond before which no year has four digits: the start of the year 0. -/
def earliest : Int := dayNumber 0 1 1 * microsPerDay

/-- The first microsecond after the year 9999. -/
def latest : Int := dayNumber 10000 1 1 * microsPerDay

/-- Whether a reading is in the year 1 or later. -/
def isCommonEra (t : DateTime) : Bool := dayNumber 1 1 1 * microsPerDay ≤ t.micros

/-- The point in time so many microseconds after the start of 1970, if it is in the years 0 to
9999. -/
def ofMicros? (micros : Int) : Option DateTime :=
  if earliest ≤ micros && micros < latest then some (utc micros) else none

/-- What the calendar says so many microseconds after the start of 1970; it knows the years 1 to
9999. -/
def onCalendar? (micros : Int) : Option DateTime :=
  (ofMicros? micros).bind fun t => if t.isCommonEra then some t else none

/-- The point in time of a whole count of seconds or milliseconds. -/
def ofSeconds? (count : Int) : Option DateTime :=
  ofMicros? (count * if count.natAbs ≤ secondsLimit then 1000000 else 1000)

/-- The point in time of a double-precision count of seconds or milliseconds. What is left after the
whole part, rounded down, gives microseconds to the nearest. -/
def ofFloatSeconds? (x : Binary64) : Option DateTime := do
  let (num, den) ← x.toRatio?
  let unit : Nat := if num.natAbs ≤ secondsLimit * den then 1000000 else 1000
  let fraction ← (Binary64.ofRatio false (num.fmod den).toNat den).toRatio?
  let (p, q) ← (Binary64.ofRatio false (fraction.1.toNat * unit) fraction.2).toRatio?
  ofMicros? (num.fdiv den * unit + (p * 2 + q) / (q * 2))

/-! ## Reading text -/

/-- The number that exactly `count` decimal digits at the start of a text denote, and the rest. -/
def takeDigits (count : Nat) (cs : List Char) : Option (Nat × List Char) :=
  let digits := cs.take count
  if digits.length = count && digits.all (fun c => '0' ≤ c && c ≤ '9') then
    some (Nat.ofDigitChars 10 digits 0, cs.drop count)
  else none

/-- The rest of a text after a character that satisfies the test. -/
def expect (p : Char → Bool) : List Char → Option (List Char)
  | c :: rest => if p c then some rest else none
  | [] => none

/-- A calendar date, as its day number, and the rest of the text. -/
def takeDate (cs : List Char) : Option (Int × List Char) := do
  let (year, cs) ← takeDigits 4 cs
  let cs ← expect (· = '-') cs
  let (month, cs) ← takeDigits 2 cs
  let cs ← expect (· = '-') cs
  let (day, cs) ← takeDigits 2 cs
  if 1 ≤ month && month ≤ 12 && 1 ≤ day && day ≤ daysInMonth year month then
    some (dayNumber year month day, cs)
  else none

/-- The microseconds of a fraction; digits after the sixth are dropped. -/
def fractionMicros (digits : List Char) : Nat :=
  Nat.ofDigitChars 10 ((digits ++ List.replicate 6 '0').take 6) 0

/-- A time of day in microseconds, and the rest of the text. -/
def takeTime (cs : List Char) : Option (Nat × List Char) := do
  let (hour, cs) ← takeDigits 2 cs
  let cs ← expect (· = ':') cs
  let (minute, cs) ← takeDigits 2 cs
  if 23 < hour || 59 < minute then none
  else
    let micros := (hour * 3600 + minute * 60) * 1000000
    match cs with
    | ':' :: rest =>
      let (second, cs) ← takeDigits 2 rest
      if 59 < second then none
      else
        let micros := micros + second * 1000000
        match expect (fun c => c = '.' || c = ',') cs with
        | some rest =>
          let digits := rest.takeWhile fun c => '0' ≤ c && c ≤ '9'
          if digits.isEmpty then none
          else some (micros + fractionMicros digits, rest.drop digits.length)
        | none => some (micros, cs)
    | _ => some (micros, cs)

/-- The zone at the end of a text: `some none` if there is none, `none` if something else is
there. -/
def zone? : List Char → Option (Option Int)
  | [] => some none
  | [c] => if c = 'Z' || c = 'z' then some (some 0) else none
  | c :: rest => do
    let negative ←
      if c = '+' then some false else if c = '-' || c = '\u2212' then some true else none
    let (hours, rest) ← takeDigits 2 rest
    let (minutes, rest) ← takeDigits 2 ((expect (· = ':') rest).getD rest)
    if minutes < 60 && hours < 24 && rest.isEmpty then
      let total : Int := (hours * 60 + minutes : Nat)
      some (some (if negative then -total else total))
    else none

/-- A point in time in calendar form; a date alone is its midnight. -/
def ofCalendar? (cs : List Char) : Option DateTime := do
  let (day, cs) ← takeDate cs
  match cs with
  | [] => some ⟨day * microsPerDay, none⟩
  | _ =>
    let cs ← expect (fun c => c = 'T' || c = 't' || c = ' ' || c = '_') cs
    let (micros, cs) ← takeTime cs
    let offset ← zone? cs
    some ⟨day * microsPerDay + micros, offset⟩

/-- A point in time given as the decimal text of a count of seconds. An exponent may follow a
fraction alone. -/
def ofNumeric? (cs : List Char) : Option DateTime := do
  let (negative, digits) :=
    match cs with
    | '-' :: rest => (true, rest)
    | '+' :: rest => (false, rest)
    | _ => (false, cs)
  let whole := digits.takeWhile Text.isAsciiDigit
  match digits.drop whole.length with
  | [] =>
    if whole.isEmpty then none
    else
      let count : Int := Nat.ofDigitChars 10 whole 0
      ofSeconds? (if negative then -count else count)
  | c :: _ => if c = '.' then ofFloatSeconds? (← Binary64.ofChars? cs) else none

/-- A point in time read from a text. -/
def ofText? (s : String) : Option DateTime :=
  let cs := s.toList
  match ofCalendar? cs with
  | some t => some t
  | none => ofNumeric? cs

end DateTime

end CallPlan
