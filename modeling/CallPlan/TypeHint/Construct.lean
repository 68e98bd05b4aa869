import CallPlan.Number.Text
import CallPlan.TypeHint.Container

/-!
# CallPlan.TypeHint.Construct

Values of the classes of numbers, texts, bytes and containers, made of other values.

* A number is made of another one, or of a text in which it is written; blanks may stand around it,
  and single underscores between digits.
* A container is made of the items of a value.
-/

namespace CallPlan

namespace TypeHint

/-! ## Numbers in texts -/

namespace Written

/-- A text as messages show it; a long one is cut. -/
def shortened (shown : String) : String :=
  Quoted.textOf ((Text.points shown.toList).take 200)

/-- A text without blanks around it, in ASCII digits. -/
def plain (points : List Nat) : List Char :=
  let trimmed := points.dropWhile (TextMethod.isBlank false)
  let trimmed := (trimmed.reverse.dropWhile (TextMethod.isBlank false)).reverse
  trimmed.map fun n =>
    let c := Char.ofNat n
    match Text.digitValue? c with
    | some d => Char.ofNat (d + 48)
    | none => c

/-- Digits in a base, with single underscores between them. -/
def digits? (base : Nat) (cs : List Char) : Option (List Nat) :=
  let parts := cs.splitOnP (· = '_')
  let value? (c : Char) : Option Nat := do
    let d ← if c.isDigit then some (c.toNat - 48)
      else if c.isAlpha && c.toNat < 0x80 then some (c.toLower.toNat - 87) else none
    guard (d < base)
    return d
  if parts.any List.isEmpty then none else parts.flatten.mapM value?

/-- A base as it stands before digits. -/
def lead? (cs : List Char) : Option (Nat × List Char) :=
  match cs with
  | '0' :: c :: rest =>
    match c.toLower with
    | 'x' => some (16, rest)
    | 'o' => some (8, rest)
    | 'b' => some (2, rest)
    | _ => none
  | _ => none

/-- The whole number that a text is in a base; the base zero stands for the one before the
digits. -/
def int? (base : Nat) (cs : List Char) : Except Fault (Option Int) :=
  let (isNegative, body) := match cs with
    | '-' :: rest => (true, rest)
    | '+' :: rest => (false, rest)
    | cs => (false, cs)
  let behindLead (rest : List Char) : List Char :=
    match rest with
    | '_' :: rest => rest
    | rest => rest
  let (base', body') := match lead? body with
    | some (found, rest) =>
      if base = found || base = 0 then (found, behindLead rest) else (base, body)
    | none => (if base = 0 then 10 else base, body)
  match digits? base' body' with
  | none => .ok none
  | some digits =>
    let value : Int := Int.ofNat (digits.foldl (fun n d => n * base' + d) 0)
    let isPower := [2, 4, 8, 16, 32].contains base'
    if !isPower && Text.digitLimit < digits.length then
      .error (.badValue (Text.longNumberText digits.length))
    else if base = 0 && base' = 10 && body.head? = some '0' && value ≠ 0 then .ok none
    else .ok (some (if isNegative then -value else value))

/-- A text without the underscores in it, if each stands alone between digits. -/
def joined? : List Char → Option (List Char)
  | a :: '_' :: b :: rest => do
    guard (a.isDigit && b.isDigit)
    return a :: (← joined? (b :: rest))
  | '_' :: _ => none
  | [_, '_'] => none
  | c :: rest => (joined? rest).map (c :: ·)
  | [] => some []

/-- The real number that a text is. -/
def float? (cs : List Char) : Option Binary64 := do Binary64.ofChars? (← joined? cs)

/-- The longest part at the start of a text that is a real number, and what follows it. -/
def floatPart? (cs : List Char) : Option (Binary64 × List Char) :=
  (List.range (cs.length + 1)).reverse.findSome? fun k =>
    if k = 0 then none else (Binary64.ofChars? (cs.take k)).map fun x => (x, cs.drop k)

/-- The complex number that a text is. -/
def complex? (cs : List Char) : Option (Binary64 × Binary64) := do
  let cs ← match cs with
    | '(' :: rest =>
      match rest.reverse with
      | ')' :: inner => some (plain (inner.reverse.map Char.toNat))
      | _ => none
    | cs => some cs
  let cs ← joined? cs
  let isUnit (c : Char) : Bool := c = 'j' || c = 'J'
  let one : Binary64 := .ofInt 1
  match floatPart? cs, cs with
  | some (x, []), _ => return (x, .zero)
  | some (y, [j]), _ => do
    guard (isUnit j)
    return (.zero, y)
  | some (x, sign :: rest), _ => do
    guard (sign = '+' || sign = '-')
    match floatPart? (sign :: rest), rest with
    | some (y, [j]), _ => do
      guard (isUnit j)
      return (x, y)
    | _, [j] => do
      guard (isUnit j)
      return (x, if sign = '-' then one.neg else one)
    | _, _ => none
  | none, [j] => do
    guard (isUnit j)
    return (.zero, one)
  | none, [sign, j] => do
    guard (isUnit j && (sign = '+' || sign = '-'))
    return (.zero, if sign = '-' then one.neg else one)
  | none, _ => none

end Written

namespace Machine

variable (m : Machine)

/-! ## Numbers -/

/-- The digits that a value is written in, if it is a text or bytes. -/
def writtenIn? (value : Value) : Action (Option (List Char)) := do
  match Sequence.of? (← get) value with
  | some (.text points) =>
    return some (if points.any Text.isSurrogate then ['?'] else Written.plain points)
  | some (.bytes octets) | some (.octets octets) => return some (Written.plain octets)
  | _ => return none

/-- The whole number that a value is, or that is written in it. -/
def makeInt (given : Arguments) : Action Value := do
  let found ← Value.lift (given.placed ["", "base"] 0)
  match Arguments.at? found 0, Arguments.at? found 1 with
  | none, none => return .int 0
  | none, some _ => throw .unsuited
  | some value, none =>
    match ← writtenIn? value with
    | some cs => read value 10 cs
    | none =>
      match ← value.plain with
      | .float x => return .int (← Value.lift (Numeral.truncated x))
      | plain =>
        match plain.int? with
        | some n => return .int n
        | none => return .int (← m.wholeNumber value true)
  | some value, some base =>
    let base ← m.index base
    if base ≠ 0 && (base < 2 || 36 < base) then
      throw (.badValue "int() base must be >= 2 and <= 36, or 0")
    else
      match ← writtenIn? value with
      | some cs => read value base.toNat cs
      | none => throw .unsuited
where
  /-- The number that is written in a text. -/
  read (value : Value) (base : Nat) (cs : List Char) : Action Value := do
    match ← Value.lift (Written.int? base cs) with
    | some n => return .int n
    | none =>
      throw (.badValue ("invalid literal for int() with base " ++ toString base ++ ": " ++
        Written.shortened (← m.literal value)))

/-- The real number that a value is, or that is written in it. -/
def realOf (value : Value) : Action Binary64 := do
  match ← writtenIn? value with
  | some cs =>
    match Written.float? cs with
    | some x => return x
    | none => throw (.badValue ("could not convert string to float: " ++ (← m.literal value)))
  | none =>
    match Numeral.of? (← value.plain) with
    | some a => Value.lift a.real
    | none =>
      match ← m.special? value "__float__" [] with
      | some (.float x) => return x
      | some _ => throw .unsuited
      | none => Value.lift (Numeral.ofInt (← m.index value))

/-- A real number. -/
def makeFloat (given : Arguments) : Action Value := do
  let found ← Value.lift (given.placed [""] 0)
  match Arguments.at? found 0 with
  | none => return .float .zero
  | some value => return .float (← m.realOf value)

/-- A complex number. -/
def makeComplex (given : Arguments) : Action Value := do
  let found ← Value.lift (given.placed ["real", "imag"] 0)
  let part (value : Value) : Action (Binary64 × Binary64) := do
    match Numeral.of? (← value.plain) with
    | some a => Value.lift a.parts
    | none =>
      match ← m.special? value "__complex__" [] with
      | some (.complex x y) => return (x, y)
      | _ => return (← m.realOf value, .zero)
  match Arguments.at? found 0, Arguments.at? found 1 with
  | none, none => return .complex .zero .zero
  | some value, second =>
    match ← value.plain, second with
    | .text _, some _ => throw .unsuited
    | .text s, none =>
      match Written.complex? (Written.plain (Text.points s.toList)) with
      | some (x, y) => return .complex x y
      | none => throw (.badValue "complex() arg is a malformed string")
    | .bytes _, _ => throw .unsuited
    | _, none =>
      let (x, y) ← part value
      return .complex x y
    | _, some second => combined part value second
  | none, some second => combined part (.int 0) second
where
  /-- A real and an imaginary part, of which each may be complex. -/
  combined (part : Value → Action (Binary64 × Binary64)) (first second : Value) :
      Action Value := do
    match ← second.plain with
    | .text _ | .bytes _ => throw .unsuited
    | _ =>
      let (x, y) ← part first
      let (u, v) ← part second
      return .complex (x.sub v) (y.add u)

/-! ## Texts and bytes -/

/-- A text. -/
def makeText (given : Arguments) : Action Value := do
  let found ← Value.lift (given.placed ["object", "encoding", "errors"] 0)
  match Arguments.at? found 0, Arguments.at? found 1, Arguments.at? found 2 with
  | none, none, none => return .text ""
  | some value, none, none => return .text (← m.display value)
  | value, encoding, errors =>
    let encoding ← Machine.text (encoding.getD (.text "utf-8"))
    let errors ← Machine.text (errors.getD (.text "strict"))
    match value with
    | none => return .text ""
    | some value =>
      let octets ← pointsOf true value
      return .text (Quoted.textOf (← Value.lift (TextMethod.decode octets encoding errors)))

/-- The octets that a value stands for. -/
def octetsOf (isFixed : Bool) (given : Arguments) : Action (List Nat) := do
  let found ← Value.lift (given.placed ["source", "encoding", "errors"] 0)
  match Arguments.at? found 0, Arguments.at? found 1, Arguments.at? found 2 with
  | none, none, none => return []
  | none, _, _ => throw .unsuited
  | some value, encoding, errors =>
    match ← value.plain, encoding, errors with
    | .text _, none, none => throw .unsuited
    | .text s, encoding, errors =>
      let encoding ← Machine.text (encoding.getD (.text "utf-8"))
      let errors ← Machine.text (errors.getD (.text "strict"))
      Value.lift (TextMethod.encode (Text.points s.toList) encoding errors)
    | plain, none, none =>
      match Sequence.of? (← get) value, plain.int? with
      | some (.bytes octets), _ | some (.octets octets), _ => return octets
      | _, some n =>
        if n < 0 then throw (.badValue "negative count")
        else if (sizeLimit : Int) < n then throw ⟨"MemoryError", ""⟩
        else return List.replicate n.toNat 0
      | _, none =>
        match ← m.special? value "__bytes__" [] with
        | some (.bytes octets) => return octets
        | _ =>
          let octets ← m.foldItems value [] fun (octets : List Nat) item => do
            let n ← m.index item
            if n < 0 || 256 ≤ n then
              throw (.badValue ((if isFixed then "bytes" else "byte") ++
                " must be in range(0, 256)"))
            else return (n.toNat :: octets, false)
          return octets.reverse
    | _, _, _ => throw .unsuited

/-! ## Containers -/

/-- The items of the only argument, if there is one. -/
def itemsGiven (given : Arguments) : Action (List Value) := do
  let found ← Value.lift (given.placed [""] 0)
  match Arguments.at? found 0 with
  | none => return []
  | some value => m.collect value

/-- The items of the only argument, if there is one, which must have hashes. -/
def membersGiven (given : Arguments) : Action (List Value) := do
  let found ← Value.lift (given.placed [""] 0)
  match Arguments.at? found 0 with
  | none => return []
  | some value =>
    let members ← m.foldItems value [] fun (members : List Value) item => do
      Value.hashed [item]
      return (item :: members, false)
    return members.reverse

/-- The entries of a table that is made of a value and of named arguments. -/
def tableGiven (given : Arguments) : Action Value := do
  match given.values with
  | [] => Value.tableOf (namedEntries given.named)
  | [value] => Value.tableOf ((← m.entriesOf value) ++ namedEntries given.named)
  | _ => throw .unsuited

/-- A table that counts the items of a value. -/
def countedTable (given : Arguments) : Action Value := do
  match given.values with
  | [] => Value.tableOf (namedEntries given.named)
  | [value] =>
    match table? (← get) value with
    | some (_, entries) => Value.tableOf (entries ++ namedEntries given.named)
    | none =>
      let items ← m.collect value
      Value.hashed items
      let store ← get
      let kinds := store.distinct items
      let counts := kinds.map fun kind =>
        (kind, Value.int ((items.filter (store.equal kind)).length : Nat))
      Value.tableOf (counts ++ namedEntries given.named)
  | _ => throw .unsuited

/-- A stretch of whole numbers. -/
def makeRange (given : Arguments) : Action Value := do
  let numbers ← (← Value.lift given.unnamed).mapM m.index
  match numbers with
  | [stop] => return .range 0 stop 1
  | [start, stop] => return .range start stop 1
  | [start, stop, step] =>
    if step = 0 then throw (.badValue "range() arg 3 must not be zero")
    else return .range start stop step
  | _ => throw .unsuited

/-- A value of a class for which the values of another one stand. -/
def makeDeque (given : Arguments) : Action Value := do
  let found ← Value.lift (given.placed ["iterable", "maxlen"] 0)
  let limit ← m.bound? (Arguments.at? found 1)
  let items ← match Arguments.at? found 0 with
    | some value => m.collect value
    | none => pure []
  if limit.any (· < 0) then throw (.badValue "maxlen must be non-negative")
  else
    let items := match limit with
      | some n => items.drop (items.length - n.toNat)
      | none => items
    Value.record "deque" [("maxlen", (limit.map .int).getD .nothing)] (← Value.list items)

/-- Tables in which a key is looked for one after the other. -/
def chained (tables : List Value) : Action Value := do
  let store ← get
  let entries := tables.map fun table => ((table? store table).map Prod.snd).getD []
  Value.record "ChainMap" [("maps", ← Value.list tables)] (← Value.tableOf entries.reverse.flatten)

/-- A value of a class of numbers, texts, bytes or containers. -/
def makePlain? (type : String) (given : Arguments) : Action (Option Value) := do
  match type with
  | "bool" =>
    let found ← Value.lift (given.placed [""] 0)
    return some (.bool (← m.truth ((Arguments.at? found 0).getD (.bool false))))
  | "int" => return some (← m.makeInt given)
  | "float" => return some (← m.makeFloat given)
  | "complex" => return some (← m.makeComplex given)
  | "str" => return some (← m.makeText given)
  | "bytes" => return some (.bytes (← m.octetsOf true given))
  | "bytearray" => return some (← allocate (.octets (← m.octetsOf false given)))
  | "memoryview" =>
    let found ← Value.lift (given.placed ["object"] 1)
    let source := (Arguments.at? found 0).getD .nothing
    let octets ← pointsOf true source
    return some (← Value.record "memoryview" [("obj", source)] (.bytes octets))
  | "tuple" => return some (.tuple (← m.itemsGiven given))
  | "list" => return some (← Value.list (← m.itemsGiven given))
  | "set" => return some (← Value.setOf (← m.membersGiven given))
  | "frozenset" =>
    let items ← m.membersGiven given
    return some (.frozenSet ((← get).distinct items))
  | "dict" => return some (← m.tableGiven given)
  | "range" => return some (← m.makeRange given)
  | "slice" =>
    match ← Value.lift given.unnamed with
    | [stop] => return some (.slice .nothing stop .nothing)
    | [start, stop] => return some (.slice start stop .nothing)
    | [start, stop, step] => return some (.slice start stop step)
    | _ => throw .unsuited
  | "deque" => return some (← m.makeDeque given)
  | "Counter" => return some (← Value.record "Counter" [] (← m.countedTable given))
  | "OrderedDict" => return some (← Value.record "OrderedDict" [] (← m.tableGiven given))
  | "defaultdict" =>
    let factory := given.values.headD .nothing
    let isFit ← match factory with
      | .nothing | .type _ | .function _ | .method .. | .alias _ | .generic .. => pure true
      | .reference _ => pure true
      | _ => pure false
    if !isFit then throw .unsuited
    else
      let table ← m.tableGiven ⟨given.values.drop 1, given.named⟩
      return some (← Value.record "defaultdict" [("default_factory", factory)] table)
  | "ChainMap" =>
    let given ← Value.lift given.unnamed
    let tables ← if given.isEmpty then pure [← Value.table []] else pure given
    return some (← chained tables)
  | "UserDict" => return some (← Value.record "UserDict" [] (← m.tableGiven given))
  | "UserList" => return some (← Value.record "UserList" [] (← Value.list (← m.itemsGiven given)))
  | "mappingproxy" =>
    let found ← Value.lift (given.placed ["mapping"] 1)
    match table? (← get) ((Arguments.at? found 0).getD .nothing) with
    | some (address, _) => return some (.view .whole address)
    | none => throw .unsuited
  | _ => return none

end Machine

end TypeHint

end CallPlan
