import CallPlan.Number.Hexadecimal
import CallPlan.TypeHint.SpecialMethod

/-!
# CallPlan.TypeHint.Method

What values do under the names that their classes hold.

* Most names belong to a kind of values: to numbers, texts, containers, streams, or classes.
* The names between double underscores stand for operators and for functions.
-/

namespace CallPlan

namespace TypeHint

namespace Machine

variable (m : Machine)

/-! ## Numbers -/

/-- The octets of a whole number, the lowest first. -/
def octetsOfInt (count : Nat) (n : Nat) : List Nat :=
  (List.range count).map fun k => n / Nat.pow 256 k % 256

/-- The order of octets that a text names: whether the highest comes first. -/
def isBigFirst (value : Option Value) : Action Bool := do
  match ← Machine.text (value.getD (.text "big")) with
  | "big" => return true
  | "little" => return false
  | _ => throw (.badValue "byteorder must be either 'little' or 'big'")

/-- What a number does under a name. -/
def numberMethod? (number : Numeral) (name : String) (given : Arguments) :
    Action (Option Value) := do
  match number, name with
  | .int n, "bit_length" => return some (.int (if n = 0 then 0 else n.natAbs.log2 + 1 : Nat))
  | .int n, "bit_count" =>
    return some (.int (((Nat.toDigits 2 n.natAbs).filter (· = '1')).length : Nat))
  | .int n, "conjugate" => return some (.int n)
  | .int n, "as_integer_ratio" => return some (.tuple [.int n, .int 1])
  | .int n, "to_bytes" =>
    let found ← Value.lift (given.placed ["length", "byteorder", "signed"] 0)
    let count ← m.index ((Arguments.at? found 0).getD (.int 1))
    let isBig ← isBigFirst (Arguments.at? found 1)
    let isSigned ← m.truth ((Arguments.at? found 2).getD (.bool false))
    if count < 0 then throw (.badValue "length argument must be non-negative")
    else if (sizeLimit : Int) < count then throw ⟨"MemoryError", ""⟩
    else
      let size : Int := Int.ofNat (Nat.pow 256 count.toNat)
      let isFit := if isSigned then -size ≤ 2 * n && 2 * n < size else 0 ≤ n && n < size
      if !isFit then throw .beyondRange
      else
        let octets := octetsOfInt count.toNat (n.fmod size).toNat
        return some (.bytes (if isBig then octets.reverse else octets))
  | .float x, "conjugate" => return some (.float x)
  | .float x, "is_integer" => return some (.bool x.toInt?.isSome)
  | .float x, "as_integer_ratio" =>
    match x.toRatio?, x with
    | some (p, q), _ =>
      let g := Nat.gcd p.natAbs q
      return some (.tuple [.int (p / g), .int (q / g : Nat)])
    | none, .nan => throw (.badValue "cannot convert NaN to integer ratio")
    | none, _ => throw .beyondRange
  | .float x, "hex" => return some (.text x.hexText)
  | .complex x y, "conjugate" => return some (.complex x y.neg)
  | _, _ => return none

/-! ## Classes -/

/-- The octets that pairs of hexadecimal digits are. -/
def hexOctets (cs : List Char) : (fuel : Nat) → List Char → Except Fault (List Nat)
  | 0, _ => .ok []
  | _, [] => .ok []
  | fuel + 1, a :: rest =>
    let place (rest : List Char) : Fault :=
      .badValue ("non-hexadecimal number found in fromhex() arg at position " ++
        toString (cs.length - rest.length))
    if TextMethod.isBlank true a.toNat then hexOctets cs fuel rest
    else
      match Token.hexValue? a, rest with
      | none, _ => .error (place (a :: rest))
      | some _, [] => .error (place [])
      | some x, b :: rest =>
        match Token.hexValue? b with
        | none => .error (place (b :: rest))
        | some y => (hexOctets cs fuel rest).map fun ns => (x * 16 + y) :: ns

/-- What a class does under a name. -/
def typeMethod? (type : Value) (name : String) (given : Arguments) : Action (Option Value) := do
  let store ← get
  let base := store.baseName type
  match name, given.values with
  | "mro", [] => return some (← Value.list (store.line type))
  | "__subclasses__", [] => return some (← Value.list [])
  | "__class_getitem__", [index] => return some (← m.item type index)
  | "__prepare__", _ => return some (← Value.table [])
  | "fromkeys", source :: rest =>
    if base = "Counter" then throw ⟨"NotImplementedError", ""⟩
    let value := rest.headD .nothing
    let table ← Value.tableOf ((← m.collect source).map fun key => (key, value))
    if base = "dict" then return some table
    else if base = "ChainMap" then return some (← chained [table])
    else return some (← Value.record base [] table)
  | "_make", [source] => return some (← m.call type ⟨← m.collect source, []⟩)
  | "fromhex", [text] =>
    let text ← Machine.text text
    if base = "float" then
      let isBlank (c : Char) : Bool := TextMethod.isBlank true c.toNat
      match Binary64.ofHex? (Text.trimBy isBlank text.toList) with
      | none => throw (.badValue "invalid hexadecimal floating-point string")
      | some (.infinite negative) =>
        if text.toList.any (fun c => c = 'i' || c = 'I') then
          return some (.float (.infinite negative))
        else throw .beyondRange
      | some x => return some (.float x)
    else
      let octets ← Value.lift (hexOctets text.toList (text.length + 1) text.toList)
      if base = "bytes" then return some (.bytes octets)
      else return some (← allocate (.octets octets))
  | "from_bytes", values =>
    let found ← Value.lift <|
      Arguments.placed ⟨values, given.named⟩ ["bytes", "byteorder", "signed"] 1
    let isBig ← isBigFirst (Arguments.at? found 1)
    let source := (Arguments.at? found 0).getD .nothing
    if (← source.plain).int?.isSome then throw .unsuited
    let octets ← m.octetsOf true ⟨[source], []⟩
    let isSigned ← m.truth ((Arguments.at? found 2).getD (.bool false))
    let octets := if isBig then octets else octets.reverse
    let n : Int := Int.ofNat (octets.foldl (fun n d => n * 256 + d) 0)
    let size : Int := Int.ofNat (Nat.pow 256 octets.length)
    let value : Value := .int (if isSigned && size ≤ 2 * n then n - size else n)
    if type matches .type "int" then return some value
    else return some (← m.call type ⟨[value], []⟩)
  | _, _ => return none

/-! ## Streams -/

/-- What a stream does under a name. -/
def streamMethod? (address : Nat) (name : String) (given : Arguments) : Action (Option Value) := do
  match name, given.values with
  | "send", [value] =>
    match ← read address with
    | .stream type (.handed scope own body sent) =>
      if sent.isEmpty && !value.isNothing then throw .unsuited
      else
        write address (.stream type (.handed scope own body sent))
        modify fun store => { store with replies := [value] }
        advanced
    | .stream _ (.comprehension _ _ _ false) =>
      if value.isNothing then advanced else throw .unsuited
    | _ => advanced
  | "close", [] => do
    match ← read address with
    | .stream type _ => write address (.stream type (.items []))
    | _ => pure ()
    return some .nothing
  | "throw", value :: _ =>
    let store ← get
    let kind := store.baseName (if TypeForm.isClass store value then value else store.typeOf value)
    if !Class.isBelow kind "BaseException" then throw .unsuited
    else
      match ← read address with
      | .stream type _ => write address (.stream type (.items []))
      | _ => pure ()
      throw ⟨kind, ""⟩
  | "__length_hint__", [] =>
    match ← read address with
    | .stream _ (.items items) => return some (.int (items.length : Nat))
    | .stream _ (.positions list k) =>
      return some (.int (((((← get).length? (.reference list)).getD 0) - k : Nat)))
    | .stream _ (.numbers start stop step) =>
      return some (.int (Stretch.count start stop step))
    | _ => return some .notImplemented
  | _, _ => return none
where
  /-- The next item. -/
  advanced : Action (Option Value) := do
    match ← m.advance address with
    | some item => return some item
    | none => throw .exhausted

/-! ## All values -/

/-- Adds counts to those of the table at an address, or takes them away. -/
def tally (isAdded : Bool) (address : Nat) (given : Arguments) : Action Unit := do
  let given := match given.values with
    | [.nothing] => ⟨[], given.named⟩
    | _ => given
  let counted ← m.countedTable given
  let new := ((table? (← get) counted).map Prod.snd).getD []
  new.forM fun (key, count) => do
    match ← read address with
    | .table entries =>
      let before := (under? (← get) entries key).getD (.int 0)
      putEntry address key (← m.binary (if isAdded then "+" else "-") before count)
    | _ => return ()

/-- What tables in which a key is looked for one after the other do under a name. -/
def chainMethod? (owner : Value) (name : String) (given : Arguments) : Action (Option Value) := do
  match owner with
  | .reference address =>
    match ← read address with
    | .record (.type "ChainMap") fields _ =>
      let tables ← m.collect ((List.lookup "maps" fields).getD (.tuple []))
      match name, given.values with
      | "new_child", [] => return some (← chained ((← Value.table []) :: tables))
      | "new_child", [.nothing] => return some (← chained ((← Value.table []) :: tables))
      | "new_child", [table] => return some (← chained (table :: tables))
      | "copy", [] => return some (← chained tables)
      | _, _ => return none
    | _ => return none
  | _ => return none

/-- What a window on some octets does under a name. -/
def windowMethod? (owner : Value) (octets : List Nat) (name : String) (given : Arguments) :
    Action (Option Value) := do
  match name, given.values with
  | "tobytes", [] | "tobytes", [.nothing] => return some (.bytes octets)
  | "tobytes", [order] =>
    match ← Machine.text order with
    | "C" | "F" | "A" => return some (.bytes octets)
    | _ => throw (.badValue "order must be 'C', 'F' or 'A'")
  | "tolist", [] => return some (← Value.list (octets.map fun (n : Nat) => .int n))
  | "hex", _ => m.textMethod? true octets name given
  | "toreadonly", [] =>
    return some (← Value.record "memoryview" [("obj", .bytes octets)] (.bytes octets))
  | "release", [] => return some .nothing
  | "cast", format :: _ => do
    let _ ← Machine.text format
    return some owner
  | _, _ => return none

/-- Bytes in an outcome as ones that can change. -/
def asOctets (value : Value) : Action Value := do
  match value with
  | .bytes octets => allocate (.octets octets)
  | .tuple items =>
    return .tuple (← items.mapM fun
      | .bytes octets => allocate (.octets octets)
      | item => return item)
  | .reference address =>
    match ← read address with
    | .list items =>
      Value.list (← items.mapM fun
        | .bytes octets => allocate (.octets octets)
        | item => return item)
    | _ => return value
  | value => return value

/-- What octets that can change do under a name. -/
def octetsMethod? (address : Nat) (octets : List Nat) (name : String) (given : Arguments) :
    Action (Option Value) := do
  let octet (value : Value) : Action Nat := do
    let n ← m.index value
    if n < 0 || 256 ≤ n then throw (.badValue "byte must be in range(0, 256)") else return n.toNat
  let put (octets : List Nat) : Action (Option Value) := do
    write address (.octets octets)
    return some .nothing
  let size : Int := octets.length
  match name, given.values with
  | "append", [value] => do put (octets ++ [← octet value])
  | "insert", [index, value] =>
    let n ← m.index index
    let k := (if n < 0 then max 0 (n + size) else min n size).toNat
    put (octets.take k ++ [← octet value] ++ octets.drop k)
  | "extend", [value] => do
    match ← value.plain with
    | .text _ => throw .unsuited
    | _ => put (octets ++ (← m.octetsOf false ⟨[value], []⟩))
  | "copy", [] => return some (← allocate (.octets octets))
  | "clear", [] => put []
  | "reverse", [] => put octets.reverse
  | "remove", [value] =>
    let n ← octet value
    match octets.findIdx? (· = n) with
    | some k => put (octets.eraseIdx k)
    | none => throw (.badValue "value not found in bytearray")
  | "pop", values =>
    let n ← match values with
      | [] => pure (-1)
      | value :: _ => m.index value
    match Stretch.position? octets.length n with
    | none => throw .noPosition
    | some k => do
      let _ ← put (octets.eraseIdx k)
      return octets[k]?.map fun (n : Nat) => .int n
  | _, _ => return none

/-- What a value does that is made of a plain one. -/
def plainMethod? (owner : Value) (name : String) (given : Arguments) : Action (Option Value) := do
  let store ← get
  let plain := store.plainIn owner
  match Sequence.of? store owner, Numeral.of? plain, plain with
  | some (.text points), _, _ => m.textMethod? false points name given
  | some (.bytes octets), _, _ =>
    if store.className owner = "memoryview" then m.windowMethod? owner octets name given
    else m.textMethod? true octets name given
  | some (.octets octets), _, .reference address =>
    match ← m.octetsMethod? address octets name given with
    | some outcome => return some outcome
    | none =>
      match ← m.textMethod? true octets name given with
      | some outcome => return some (← asOctets outcome)
      | none => return none
  | some (.tuple items), _, _ =>
    match name, given.values with
    | "count", [value] => return some (.int ((← m.countAmong value items : Nat)))
    | "index", _ => return some (← m.indexIn "tuple" items given)
    | "_asdict", [] =>
      match ← m.attribute? owner "_fields" with
      | some (.tuple names) => return some (← Value.table (names.zip items))
      | _ => return none
    | "_replace", [] =>
      match ← m.attribute? owner "_fields" with
      | some (.tuple names) =>
        let unknown := given.named.filter fun (name, _) =>
          !names.any fun
            | .text known => known = name
            | _ => false
        if !unknown.isEmpty then
          let shown ← unknown.mapM fun (name, _) => (Value.text name).shown
          throw (.badValue ("Got unexpected field names: [" ++ ", ".intercalate shown ++ "]"))
        let new := (names.zip items).map fun (name, value) =>
          match name with
          | .text name => (List.lookup name given.named).getD value
          | _ => value
        return some (← m.call (store.typeOf owner) ⟨new, []⟩)
      | _ => return none
    | _, _ => return none
  | some (.list items), _, .reference address =>
    let limit? : Option Nat ← match owner with
      | .reference outer =>
        match ← read outer with
        | .record _ fields _ =>
          match List.lookup "maxlen" fields with
          | some (.int n) => pure (some n.toNat)
          | _ => pure none
        | _ => pure none
      | _ => pure none
    m.listMethod? address items (store.className owner = "deque") limit? name given
  | _, some number, _ => m.numberMethod? number name given
  | _, _, .frozenSet items => m.setMethod? none items name given
  | _, _, .range start stop step =>
    let items := (Store.rangeItems start stop step).map Value.int
    match name, given.values with
    | "count", [value] => return some (.int ((← m.countAmong value items : Nat)))
    | "index", [value] =>
      match ← m.placeAmong value 0 items with
      | some k => return some (.int (k : Nat))
      | none =>
        if (store.plainIn value).int?.isSome then
          throw (.badValue ((← m.literal value) ++ " is not in range"))
        else throw (.badValue "sequence.index(x): x not in sequence")
    | _, _ => return none
  | _, _, .slice start stop step =>
    match name, given.values with
    | "indices", [size] =>
      let size ← m.index size
      if size < 0 then throw (.badValue "length should not be negative")
      else
        let (start, stop, step) ← m.sliceBounds start stop step
        let (start, stop, step) ← Value.lift (Stretch.bounds size.toNat start stop step)
        return some (.tuple [.int start, .int stop, .int step])
    | _, _ => return none
  | _, _, .view kind address =>
    match kind, setItems? store plain, name with
    | .whole, _, _ =>
      match ← read address with
      | .table entries => m.tableMethod? address entries name given
      | _ => return none
    | _, some (items, _), "isdisjoint" => m.setMethod? none items name given
    | _, _, _ => return none
  | _, _, .reference address =>
    match ← read address with
    | .table entries =>
      match ← m.chainMethod? owner name given with
      | some outcome => return some outcome
      | none => pure ()
      if store.className owner = "Counter" && ["update", "subtract"].contains name then
        m.tally (name = "update") address given
        return some .nothing
      match ← m.tableMethod? address entries name given, owner with
      | some (.view kind table), .reference outer =>
        let view : Value := .view kind table
        match store.className owner with
        | "OrderedDict" => return some (← Value.record ("odict_" ++ name) [] view)
        | "ChainMap" =>
          let type := if name = "keys" then "KeysView" else if name = "values" then "ValuesView"
            else "ItemsView"
          return some (← Value.record type [("_mapping", .reference outer)] view)
        | _ => return some view
      | some (.reference copied), .reference outer =>
        match ← read outer, name with
        | .record type fields _, "copy" =>
          return some (← allocate (.record type fields (.reference copied)))
        | _, _ => return some (.reference copied)
      | outcome, _ => return outcome
    | .set items => m.setMethod? (some address) items name given
    | .stream .. => m.streamMethod? address name given
    | _ => return none
  | _, _, _ => return none

/-- What a value does under a name that its class holds. -/
def callMethod (owner : Value) (name : String) (given : Arguments) : Action Value := do
  let store ← get
  let suits := Arity.suits (store.className owner) name given.values.length !given.named.isEmpty
  let isClosed := name = "copy_with" && !given.named.isEmpty
  if !suits || isClosed || !isCallable store (.method owner name) then throw .unsuited
  let named? ← if TypeForm.isClass store owner then m.typeMethod? owner name given
    else m.plainMethod? owner name given
  match named? with
  | some value => return value
  | none =>
    match ← m.specialMethod? owner name given with
    | some value => return value
    | none =>
      match owner, name, given.values with
      | .generic origin _, "copy_with", [parts] => copied origin parts
      | .alias kind, "copy_with", [parts] => copied (Names.aliasOrigin kind) parts
      | .type type, "maketrans", _ =>
        if type = "str" then translation given else throw .unsuited
      | .reference address, _, values => ofObject address values
      | _, _, _ => refused
where
  /-- What becomes of a name that stands for nothing here. -/
  refused : Action Value := if name.startsWith "_" then throw .unsuited else return .nothing
  /-- What an object does that is no container. -/
  ofObject (address : Nat) (values : List Value) : Action Value := do
    match name, values, ← read address with
    | "with_traceback", [trace], _ =>
      if trace.isNothing then return .reference address else throw .unsuited
    | "add_note", [note], _ => do
      let _ ← Machine.text note
      return .nothing
    | "getter", [function], .record type fields plain
    | "setter", [function], .record type fields plain
    | "deleter", [function], .record type fields plain =>
      let field := "f" ++ (name.take 3).toString
      allocate (.record type (fields.map fun (key, value) =>
        (key, if key = field then function else value)) plain)
    | _, _, _ => refused
  /-- A type with other arguments. -/
  copied (origin : String) (parts : Value) : Action Value := do
    match origin, parts with
    | "Union", parts => m.item (.form "Union") parts
    | "Annotated", parts =>
      match (← get).length? parts with
      | none => throw .unsuited
      | some 1 => TypeForm.rebuild owner [← m.item parts (.int 0)]
      | some _ => throw ⟨"AssertionError", ""⟩
    | "Concatenate", .tuple parts => TypeForm.rebuild owner parts
    | "Concatenate", _ => throw .unsuited
    | origin, .tuple parts => return .generic origin parts
    | origin, part => return .generic origin [part]

/-- The classes that make the values of those below them. -/
def makers : List String := solidTypes ++ selfMade

/-- The class that makes the values of a class. -/
def maker (store : Store) (type : Value) : String :=
  ((store.line type).findSome? fun
    | .type name => if makers.contains name then some name else none
    | _ => none).getD "object"

/-- A value of a class that is not set up. -/
def unset (type : Value) (given : Arguments) : Action Value := do
  let store ← get
  let base := store.baseName type
  let isLate := ["list", "dict", "set", "bytearray", "deque", "OrderedDict", "defaultdict",
    "Counter", "UserDict", "UserList", "property", "staticmethod", "classmethod"].contains base
  let given := if isLate then ⟨[], []⟩ else given
  match type with
  | .reference _ =>
    if Class.isBelow base "BaseException" then
      allocate (.record type [("args", .tuple given.values)] .nothing)
    else if base = "object" then
      let isBare := given.values.isEmpty && given.named.isEmpty
      if !isBare && (store.madeMember? type "__init__").isNone then throw .unsuited
      else allocate (.record type [] .nothing)
    else
      match ← m.call (.type base) given with
      | .reference address =>
        match ← read address with
        | .record _ fields plain => allocate (.record type fields plain)
        | _ => allocate (.record type [] (.reference address))
      | value => allocate (.record type [] value)
  | type =>
    if ["staticmethod", "classmethod"].contains base then
      Value.record base [("__func__", .nothing), ("__wrapped__", .nothing)] .nothing
    else m.call type given

/-- What a class holds under a name, called with a value of the class first. -/
def callMember (type name : String) (given : Arguments) : Action Value := do
  let store ← get
  if !Class.isCallable type name then throw .unsuited
  match name, given.values with
  | "__new__", owner :: rest =>
    if TypeForm.isClass store owner && ClassCheck.isBelow store owner (.type type) &&
        maker store (.type type) = maker store owner then
      m.unset owner ⟨rest, given.named⟩
    else throw .unsuited
  | "maketrans", _ => translation given
  | name, owner :: rest =>
    let given : Arguments := ⟨rest, given.named⟩
    if type = "object" && name = "__str__" && rest.isEmpty then
      return .text (← m.literal owner)
    else if ClassCheck.isBelow store (store.typeOf owner) (.type type) then
      m.callMethod owner name given
    else if Class.memberKind type name = .function then
      if !Arity.suits type name rest.length !given.named.isEmpty then throw .unsuited
      else if ["IO", "TextIO", "BinaryIO"].contains type then return .nothing
      else if (operatorNamed? name).isSome || (comparisonNamed? name).isSome then
        return .notImplemented
      else throw .noAttribute
    else throw .unsuited
  | _, [] => throw .unsuited

end Machine

end TypeHint

end CallPlan
