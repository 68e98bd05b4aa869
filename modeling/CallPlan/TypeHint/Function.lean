import CallPlan.Text.Sorted
import CallPlan.TypeHint.Arity
import CallPlan.TypeHint.ClassCheck
import CallPlan.TypeHint.Hash
import CallPlan.TypeHint.Made

/-!
# CallPlan.TypeHint.Function

Functions that are there from the start.

* Functions that are named for operators do what these do.
* What functions ask of types, and of the values of generic types, they ask of the types as they
  stand; marks on functions leave them as they are.
-/

namespace CallPlan

namespace TypeHint

/-- A number in a base, with what stands before its digits. -/
def inBase (lead : String) (base : Nat) (n : Int) : Value :=
  .text ((if n < 0 then "-" else "") ++ lead ++ String.ofList (Nat.toDigits base n.natAbs))

/-- The rest of a power when it is divided by a number. -/
def powerRest (base exponent modulus : Nat) : Nat :=
  let step (state : Nat × Nat) (bit : Bool) : Nat × Nat :=
    (if bit then state.1 * state.2 % modulus else state.1, state.2 * state.2 % modulus)
  let bits := (List.range (exponent.log2 + 1)).map fun k => exponent.testBit k
  (bits.foldl step (1 % modulus, base % modulus)).1

/-- The number by which another one is multiplied to leave one, when divided by a modulus; a step of
fuel for each division. -/
def inverseRest? (modulus : Nat) : (fuel : Nat) → (a b x y : Int) → Option Int
  | 0, _, _, _, _ => none
  | fuel + 1, a, b, x, y =>
    if b = 0 then (if a = 1 then some (x.fmod modulus) else none)
    else inverseRest? modulus fuel b (a.fmod b) y (x - a.fdiv b * y)

namespace Machine

variable (m : Machine)

/-! ## Numbers -/

/-- A power, perhaps the rest of one when it is divided by a number. -/
def powerOf (base exponent modulus : Value) : Action Value := do
  match base.int?, exponent.int?, modulus with
  | _, _, .nothing => m.binary "**" base exponent
  | some b, some e, modulus =>
    match modulus.int? with
    | none => throw .unsuited
    | some n =>
      if n = 0 then throw (.badValue "pow() 3rd argument cannot be 0")
      else
        let size := n.natAbs
        let b := (b.fmod size).toNat
        let positive? : Option Nat := if 0 ≤ e then some b
          else (inverseRest? size 100000 b size 1 0).map Int.toNat
        match positive? with
        | none => throw (.badValue "base is not invertible for the given modulus")
        | some b => return .int (Int.fmod (powerRest b e.natAbs size : Nat) n)
  | _, _, _ => throw .unsuited

/-- A number to a number of places. -/
def roundOf (value places : Value) : Action Value := do
  match ← m.special? value "__round__" (if places.isNothing then [] else [places]) with
  | some outcome => return outcome
  | none =>
    match Numeral.of? (← value.plain), places with
    | some (.int n), .nothing => return .int n
    | some (.int n), places => return .int (Numeral.roundInt n (← m.index places))
    | some (.float x), .nothing => return .int (← Value.lift (Numeral.rounded x))
    | some (.float x), places =>
      return .float (← Value.lift (Numeral.roundReal x (← m.index places)))
    | _, _ => throw .unsuited

/-- The largest or the smallest of some values. -/
def extreme (isMax : Bool) (given : Arguments) : Action Value := do
  if given.named.any fun (name, _) => name ≠ "key" && name ≠ "default" then throw .unsuited
  else
    let default? := List.lookup "default" given.named
    let source ← match given.values with
      | [] => throw .unsuited
      | [value] => pure value
      | values => if default?.isSome then throw .unsuited else pure (.tuple values)
    let key := (List.lookup "key" given.named).getD .nothing
    let keyed (item : Value) : Action Value := do
      if key.isNothing then return item else m.call key ⟨[item], []⟩
    let best? ← m.foldItems source none fun (best? : Option (Value × Value)) item => do
      let k ← keyed item
      match best? with
      | none => return (some (item, k), false)
      | some best =>
        let isBetter ← if isMax then m.truth (← m.compare ">" k best.2) else m.isBefore k best.2
        return (some (if isBetter then (item, k) else best), false)
    match best?, default? with
    | some (best, _), _ => return best
    | none, some value => return value
    | none, none =>
      throw (.badValue ((if isMax then "max" else "min") ++ "() arg is an empty sequence"))

/-! ## Items -/

/-- The next item of something that gives items one after the other. -/
def nextOf? (value : Value) : Action (Option Value) := do
  match value with
  | .reference address =>
    match ← read address with
    | .stream .. => m.advance address
    | .record .. =>
      match ← attempt ["StopIteration"] (m.special? value "__next__" []) with
      | some (some item) => return some item
      | some none => throw .unsuited
      | none => return none
    | _ => throw .unsuited
  | _ => throw .unsuited

/-- A new stream. -/
def newStream (type : String) (stream : Stream) : Action Value := allocate (.stream type stream)

/-- The stream of the items of a value, as a value. -/
def opened (value : Value) : Action Value := return .reference (← m.open_ value)

/-- Whether a value can be called. -/
def isCallable (store : Store) : Value → Bool
  | .function _ | .type _ | .alias _ | .form _ | .newType .. | .applied .. | .generic .. => true
  | .member type name => Class.isCallable type name
  | .method owner name =>
    (Class.holder? (store.className owner) name).all fun holder => Class.isCallable holder name
  | .reference address =>
    match store.get? address with
    | some (.type ..) | some (.closure _) => true
    | some (.record type _ _) =>
      (store.madeMember? type "__call__").isSome || Class.holds (store.baseName type) "__call__"
    | _ => false
  | _ => false

/-- What goes through the items of a value from its end. -/
def reverseOf (value : Value) : Action Value := do
  match ← m.special? value "__reversed__" [] with
  | some outcome => return outcome
  | none =>
    let store ← get
    match store.plainIn value with
    | .range start stop step =>
      let size : Int := Stretch.count start stop step
      newStream "range_iterator" (.numbers (start + (size - 1) * step) (start - step) (-step))
    | .reference address =>
      match store.get? address with
      | some (.list items) =>
        newStream "list_reverseiterator" (.backwards address (items.length - 1))
      | some (.table entries) =>
        newStream "dict_reversekeyiterator" (.items (entries.map Prod.fst).reverse)
      | some (.octets octets) =>
        newStream "reversed" (.items (octets.reverse.map fun (n : Nat) => .int n))
      | _ => throw .unsuited
    | .view kind address =>
      match items? store (.view kind address) with
      | some (_, items) => newStream "dict_reversekeyiterator" (.items items.reverse)
      | none => throw .unsuited
    | plain =>
      match Sequence.of? store plain, items? store plain with
      | some _, some (_, items) => newStream "reversed" (.items items.reverse)
      | _, _ => throw .unsuited

/-- A value of a class of streams. -/
def makeStream? (type : String) (given : Arguments) : Action (Option Value) := do
  match type with
  | "enumerate" =>
    let found ← Value.lift (given.placed ["iterable", "start"] 1)
    let start ← m.index ((Arguments.at? found 1).getD (.int 0))
    let source ← m.opened ((Arguments.at? found 0).getD .nothing)
    return some (← newStream type (.numbered start source))
  | "zip" =>
    if given.named.any fun (name, _) => name ≠ "strict" then throw .unsuited
    else
      let isStrict ← m.truth ((List.lookup "strict" given.named).getD (.bool false))
      return some (← newStream type (.zipped (← given.values.mapM m.opened) isStrict))
  | "map" =>
    match ← Value.lift given.unnamed with
    | function :: source :: sources =>
      return some (← newStream type (.mapped function (← (source :: sources).mapM m.opened)))
    | _ => throw .unsuited
  | "filter" =>
    match ← Value.lift given.unnamed with
    | [test, source] => return some (← newStream type (.filtered test (← m.opened source)))
    | _ => throw .unsuited
  | "reversed" =>
    match ← Value.lift given.unnamed with
    | [value] => return some (← m.reverseOf value)
    | _ => throw .unsuited
  | _ => return none

/-! ## Attributes by name -/

/-- Puts a value under a name of an object. -/
def setField (owner : Value) (name : String) (value : Value) : Action Unit := do
  match ← m.special? owner "__setattr__" [.text name, value] with
  | some _ => return ()
  | none =>
    let put (fields : List (String × Value)) : List (String × Value) :=
      fields.filter (fun (n, _) => n ≠ name) ++ [(name, value)]
    match owner with
    | .reference address =>
      match ← read address with
      | .type own bases fields => write address (.type own bases (put fields))
      | .record type fields plain =>
        let isOpen := match type with
          | .type own =>
            own = "SimpleNamespace" || own = "partial" || Class.isBelow own "BaseException"
          | _ => true
        if isOpen then write address (.record type (put fields) plain) else throw .noAttribute
      | .closure _ => return ()
      | _ => throw .noAttribute
    | .type _ => throw .unsuited
    | .function name => if name.contains '.' then return () else throw .noAttribute
    | .module _ | .newType .. => return ()
    | _ => throw .noAttribute

/-- Takes away what stands under a name of an object. -/
def dropField (owner : Value) (name : String) : Action Unit := do
  let without (fields : List (String × Value)) : Action (List (String × Value)) := do
    if fields.any fun (n, _) => n = name then return fields.filter fun (n, _) => n ≠ name
    else throw .noAttribute
  match owner with
  | .reference address =>
    match ← read address with
    | .type own bases fields => write address (.type own bases (← without fields))
    | .record type fields plain => write address (.record type (← without fields) plain)
    | _ => throw .noAttribute
  | .type _ => throw .unsuited
  | _ => throw .noAttribute

/-- The names of the attributes of a value. -/
def attributeNames (value : Value) : Action (List String) := do
  let store ← get
  let type := if TypeForm.isClass store value then value else store.typeOf value
  let classNames := (store.line type).flatMap fun
    | .type name =>
      ((Class.find? name).map fun entry => Text.words entry.members).getD []
    | .reference address =>
      match store.get? address with
      | some (.type _ _ fields) => fields.map Prod.fst
      | _ => []
    | _ => []
  let own := match value with
    | .module name => (Names.membersOf name).map Prod.fst
    | .reference address =>
      match store.get? address with
      | some (.record _ fields _) => fields.map Prod.fst
      | _ => []
    | _ => []
  return Text.sortedSet (own ++ classNames)

/-! ## Items put and taken away -/

/-- Puts a value under an index of a container. -/
def setItem (owner index value : Value) : Action Unit := do
  match ← m.special? owner "__setitem__" [index, value] with
  | some _ => return ()
  | none =>
    match ← owner.plain with
    | .reference address =>
      match ← read address, index with
      | .table _, _ => putEntry address index value
      | .list items, .slice start stop step =>
        let (start, stop, step) ← m.sliceBounds start stop step
        let new ← m.collect value
        let (first, last, stride) ← Value.lift (Stretch.bounds items.length start stop step)
        if stride = 1 then
          let last := max first last
          write address (.list (items.take first.toNat ++ new ++ items.drop last.toNat))
        else
          let places := Stretch.places first stride (Stretch.count first last stride)
          if places.length ≠ new.length then
            throw (.badValue ("attempt to assign sequence of size " ++ toString new.length ++
              " to extended slice of size " ++ toString places.length))
          else
            write address (.list ((places.zip new).foldl (fun items (k, v) => items.set k v) items))
      | .list items, index =>
        match Stretch.position? items.length (← m.index index) with
        | some k => write address (.list (items.set k value))
        | none => throw .noPosition
      | .octets octets, index =>
        let n ← m.index value
        match Stretch.position? octets.length (← m.index index) with
        | some k =>
          if n < 0 || 256 ≤ n then throw (.badValue "byte must be in range(0, 256)")
          else write address (.octets (octets.set k n.toNat))
        | none => throw .noPosition
      | _, _ => throw .unsuited
    | _ => throw .unsuited

/-- Takes away what stands under an index of a container. -/
def dropItem (owner index : Value) : Action Unit := do
  match ← m.special? owner "__delitem__" [index] with
  | some _ => return ()
  | none =>
    match ← owner.plain with
    | .reference address =>
      match ← read address, index with
      | .table entries, _ =>
        Value.hashed [index]
        let store ← get
        if entries.any fun (k, _) => sameKey store k index then
          write address (.table (entries.filter fun (k, _) => !sameKey store k index))
        else throw .noKey
      | .list items, .slice start stop step =>
        let (start, stop, step) ← m.sliceBounds start stop step
        let places ← Value.lift (Stretch.positions items.length start stop step)
        write address (.list (items.zipIdx.filterMap fun (item, k) =>
          if places.contains k then none else some item))
      | .list items, index =>
        match Stretch.position? items.length (← m.index index) with
        | some k => write address (.list (items.eraseIdx k))
        | none => throw .noPosition
      | _, _ => throw .unsuited
    | _ => throw .unsuited

/-! ## Functions named for operators -/

/-- The operators of functions with two arguments. -/
def operatorFunctions : List (String × String) :=
  [("add", "+"), ("and_", "&"), ("floordiv", "//"), ("lshift", "<<"), ("mod", "%"), ("mul", "*"),
    ("matmul", "@"), ("or_", "|"), ("pow", "**"), ("rshift", ">>"), ("sub", "-"), ("truediv", "/"),
    ("xor", "^"), ("concat", "+"), ("iadd", "+"), ("iand", "&"), ("iconcat", "+"),
    ("ifloordiv", "//"), ("ilshift", "<<"), ("imod", "%"), ("imul", "*"), ("imatmul", "@"),
    ("ior", "|"), ("ipow", "**"), ("irshift", ">>"), ("isub", "-"), ("itruediv", "/"),
    ("ixor", "^")]

/-- The comparisons of functions with two arguments. -/
def comparisonFunctions : List (String × String) :=
  [("lt", "<"), ("le", "<="), ("eq", "=="), ("ne", "!="), ("ge", ">="), ("gt", ">"), ("is_", "is"),
    ("is_not", "is not")]

/-- A name without underscores around it; what is a word otherwise ends in one. -/
def bareName (name : String) : String :=
  if isSpecialName name then
    let inner := ((name.drop 2).dropEnd 2).toString
    if ["and", "or", "not"].contains inner then inner ++ "_" else inner
  else name

/-- What a function that is named for an operator gives. -/
def callOperator (name : String) (given : Arguments) : Action Value := do
  let name := bareName name
  match List.lookup name operatorFunctions, List.lookup name comparisonFunctions, name,
    given.values with
  | some operator, _, _, [a, b] =>
    let _ ← Value.lift given.unnamed
    m.binary operator a b
  | _, some operator, _, [a, b] =>
    let _ ← Value.lift given.unnamed
    m.compare operator a b
  | none, none, "call", function :: values => m.call function ⟨values, given.named⟩
  | none, none, name, values =>
    let _ ← Value.lift given.unnamed
    match name, values with
    | "not_", [a] => return .bool (!(← m.truth a))
    | "truth", [a] => return .bool (← m.truth a)
    | "neg", [a] => m.unary "-" a
    | "pos", [a] => m.unary "+" a
    | "inv", [a] | "invert", [a] => m.unary "~" a
    | "index", [a] => return .int (← m.index a)
    | "abs", [a] | "_abs", [a] =>
      match Numeral.of? (← a.plain) with
      | some n => return (← Value.lift n.magnitude).toValue
      | none => throw .unsuited
    | "contains", [a, b] => return .bool (← m.isIn b a)
    | "getitem", [a, b] => m.item a b
    | "setitem", [a, b, c] => do
      m.setItem a b c
      return .nothing
    | "delitem", [a, b] => do
      m.dropItem a b
      return .nothing
    | "countOf", [a, b] => return .int ((← m.countAmong b (← m.collect a) : Nat))
    | "indexOf", [a, b] =>
      match ← m.placeAmong b 0 (← m.collect a) with
      | some k => return .int (k : Nat)
      | none => throw (.badValue "sequence.index(x): x not in sequence")
    | "length_hint", a :: _ => return .int ((((← get).length? a).getD 0 : Nat))
    | _, _ => throw .unsuited
  | _, _, _, _ => throw .unsuited

/-! ## Functions on types -/

/-- What a type with arguments is one of. -/
def typeOrigin (value : Value) : Value :=
  match value with
  | .generic "Annotated" _ => .type "Annotated"
  | .generic .. | .applied .. | .alias _ => (origin? value).getD .nothing
  | .choice _ => .type "UnionType"
  | .type "Generic" => value
  | _ => .nothing

/-- The arguments of a type, as they are written. -/
def typeArguments (value : Value) : Action Value := do
  match value with
  | .generic "Annotated" parts => return .tuple parts
  | .generic "Callable" parts | .applied (.type "Callable") parts _ =>
    match parts with
    | [first, _] =>
      if TypeForm.isParameters (← get) first then return .tuple parts
      else return .tuple [← Value.list parts.dropLast, parts.getLastD .nothing]
    | parts => return .tuple [← Value.list parts.dropLast, parts.getLastD .nothing]
  | value => return .tuple ((typeArguments? value).getD [])

/-- Functions that give their last argument, or their first one, as it stands. -/
def transparent : List (String × Nat × Bool) :=
  [("typing.cast", 2, true), ("typing.assert_type", 2, false), ("typing.final", 1, true),
    ("typing.no_type_check", 1, true), ("typing.no_type_check_decorator", 1, true),
    ("typing._idfunc", 2, true), ("typing.abstractmethod", 1, true),
    ("typing.reveal_type", 1, true),
    ("typing._tp_cache", 1, true), ("types.coroutine", 1, true), ("sys.intern", 1, true),
    ("functools.total_ordering", 1, true), ("functools.cache", 1, true),
    ("functools.singledispatch", 1, true), ("functools.update_wrapper", 2, false),
    ("contextlib.contextmanager", 1, true), ("contextlib.asynccontextmanager", 1, true)]

/-- What a function on types gives. -/
def callTypeFunction? (name : String) (given : Arguments) : Action (Option Value) := do
  match List.lookup name transparent with
  | some (count, isLast) =>
    match given.named, decide (given.values.length = count) with
    | [], true =>
      let value := if isLast then given.values.getLast? else given.values.head?
      match name, value with
      | "typing.no_type_check", some value => do
        let _ ← attempt ["TypeError"] (m.setField value "__no_type_check__" (.bool true))
        return some value
      | "sys.intern", some (.text s) => return some (.text s)
      | "sys.intern", _ => throw .unsuited
      | _, value => return value
    | _, _ => throw .unsuited
  | none =>
    match name, given.values with
    | "typing.NamedTuple", _ => return some (← m.makeTypedTuple given)
    | "typing.TypedDict", _ => return some (← m.makeTypedTable given)
    | "collections.namedtuple", _ | "functools.namedtuple", _ =>
      return some (← m.makeNamedTuple given)
    | "typing.get_origin", [value] => return some (typeOrigin value)
    | "typing.get_args", [value] => return some (← typeArguments value)
    | "typing.overload", [_] => return some (.function "typing._overload_dummy")
    | "typing._overload_dummy", _ => throw ⟨"NotImplementedError", ""⟩
    | "typing.runtime_checkable", [value] =>
      match value with
      | .type name =>
        if Value.metaclass name = "_ProtocolMeta" then return some value else throw .unsuited
      | _ => throw .unsuited
    | "typing.assert_never", [_] => throw ⟨"AssertionError", ""⟩
    | "typing.is_typeddict", [value] =>
      let store ← get
      return some (.bool ((store.madeMember? value "__required_keys__").isSome))
    | "typing.get_overloads", [_] => return some (← Value.list [])
    | "typing.clear_overloads", [] => return some .nothing
    | "typing.get_type_hints", value :: _ =>
      let store ← get
      if TypeForm.isClass store value then
        match store.madeMember? value "__annotations__" with
        | some table =>
          match table? store table with
          | some (_, entries) => return some (← Value.table entries)
          | none => return some (← Value.table [])
        | none => return some (← Value.table [])
      else
        match value with
        | .function _ | .module _ | .member .. | .method .. => return some (← Value.table [])
        | value => if ← isClosure value then return some (← Value.table []) else throw .unsuited
    | "typing._type_check", value :: _ => return some (← TypeForm.check false value)
    | "typing._type_convert", value :: _ => return some (← TypeForm.convert false value)
    | "typing._type_repr", [value] => return some (.text (← m.display value))
    | "typing._is_dunder", [.text s] => return some (.bool (isSpecialName s))
    | "typing._strip_annotations", [value] => return some value
    | "typing.dataclass_transform", _ => return some (.function "typing.final")
    | "functools.reduce", function :: source :: rest =>
      let reduced? ← m.foldItems source rest.head? fun (reduced? : Option Value) item => do
        match reduced? with
        | none => return (some item, false)
        | some value => return (some (← m.call function ⟨[value, item], []⟩), false)
      match reduced? with
      | some value => return some value
      | none => throw .unsuited
    | "functools.wraps", _ | "contextlib.wraps", _ | "functools.lru_cache", [] =>
      return some (.function "typing.final")
    | "functools.lru_cache", value :: _ =>
      return some (if isCallable (← get) value then value else .function "typing.final")
    | "types.new_class", name :: rest =>
      let bases ← match rest with
        | [] => pure []
        | bases :: _ => m.collect bases
      let bases := bases.filterMap fun
        | .alias name => some (Value.type (Names.aliasOrigin name))
        | .applied origin _ _ => some origin
        | .generic "Protocol" _ => some (.type "Protocol")
        | .generic origin parts => origin? (.generic origin parts)
        | base => some base
      return some (← makeClass (← Machine.text name) bases [])
    | "types.prepare_class", _ => throw .unsuited
    | "warnings.warn", _ :: _ => return some .nothing
    | "sys.getrecursionlimit", [] => return some (.int 1000)
    | "sys.getdefaultencoding", [] | "sys.getfilesystemencoding", [] => return some (.text "utf-8")
    | "sys.get_int_max_str_digits", [] => return some (.int 4300)
    | _, _ => return none

/-! ## Functions that are there without being given -/

/-- A function that is there without being given, on a single value. -/
def callSimple? (name : String) (value : Value) : Action (Option Value) := do
  let number (lead : String) (base : Nat) : Action (Option Value) := do
    return some (inBase lead base (← m.index value))
  match name with
  | "abs" =>
    match ← m.special? value "__abs__" [] with
    | some outcome => return some outcome
    | none =>
      match Numeral.of? (← value.plain) with
      | some n => return some (← Value.lift n.magnitude).toValue
      | none => throw .unsuited
  | "all" =>
    return some (.bool (← m.foldItems value true fun _ item => do
      let isTrue ← m.truth item
      return (isTrue, !isTrue)))
  | "any" =>
    return some (.bool (← m.foldItems value false fun _ item => do
      let isTrue ← m.truth item
      return (isTrue, isTrue)))
  | "ascii" => return some (.text (← m.asciiLiteral value))
  | "repr" => return some (.text (← m.literal value))
  | "bin" => number "0b" 2
  | "oct" => number "0o" 8
  | "hex" => number "0x" 16
  | "callable" => return some (.bool (isCallable (← get) value))
  | "chr" =>
    let n ← m.index value
    if n < -2147483648 || 2147483647 < n then throw .beyondRange
    else if n < 0 || 0x110000 ≤ n then
      throw (.badValue "chr() arg not in range(0x110000)")
    else return some (.text (Quoted.textOf [n.toNat]))
  | "ord" =>
    match Sequence.of? (← get) value with
    | some (.text [n]) | some (.bytes [n]) | some (.octets [n]) => return some (.int (n : Nat))
    | _ => throw .unsuited
  | "hash" =>
    match ← m.special? value "__hash__" [] with
    | some outcome => return some (.int (← m.index outcome))
    | none =>
      Value.hashed [value]
      return some (.int (Hash.of (← get) Store.depthLimit value))
  | "id" => return some (.int 140000000000000)
  | "len" =>
    match ← m.special? value "__len__" [] with
    | some outcome =>
      let n ← m.index outcome
      if n < 0 then throw (.badValue "__len__() should return >= 0") else return some (.int n)
    | none =>
      match (← get).length? value with
      | some n => return some (.int (n : Nat))
      | none => throw .unsuited
  | "dir" => return some (← Value.list ((← attributeNames value).map .text))
  | "vars" =>
    match value with
    | .reference _ | .type _ | .module _ =>
      match ← m.attribute? value "__dict__" with
      | some table => return some table
      | none => throw .unsuited
    | _ => throw .unsuited
  | "aiter" | "anext" => throw .unsuited
  | _ => return none

/-- A function that is there without being given. -/
def callPlain (name : String) (given : Arguments) : Action Value := do
  let simple? ← match given.values, given.named with
    | [value], [] => m.callSimple? name value
    | _, _ => pure none
  match simple? with
  | some value => return value
  | none =>
    match name, given.values with
    | "max", _ => m.extreme true given
    | "min", _ => m.extreme false given
    | "sorted", [value] =>
      let items ← Value.list (← m.collect value)
      match items with
      | .reference address =>
        match ← read address with
        | .list values =>
          let _ ← m.listMethod? address values false none "sort" ⟨[], given.named⟩
          return items
        | _ => throw .unsuited
      | _ => throw .unsuited
    | "print", _ =>
      if given.named.any fun (name, _) => !(["sep", "end", "file", "flush"].contains name) then
        throw .unsuited
      else do
        given.values.forM fun value => do
          let _ ← m.display value
        return .nothing
    | "pow", _ =>
      let found ← Value.lift (given.placed ["base", "exp", "mod"] 2)
      let at' (k : Nat) : Value := (Arguments.at? found k).getD .nothing
      m.powerOf (at' 0) (at' 1) (at' 2)
    | "round", _ =>
      let found ← Value.lift (given.placed ["number", "ndigits"] 1)
      m.roundOf ((Arguments.at? found 0).getD .nothing) ((Arguments.at? found 1).getD .nothing)
    | "sum", _ =>
      let found ← Value.lift (given.placed ["", "start"] 1)
      let start := (Arguments.at? found 1).getD (.int 0)
      match ← start.plain with
      | .text _ | .bytes _ => throw .unsuited
      | _ =>
        m.foldItems ((Arguments.at? found 0).getD .nothing) start fun sum item => do
          return (← m.binary "+" sum item, false)
    | name, values =>
      let _ ← Value.lift given.unnamed
      match name, values with
      | "divmod", [a, b] => return .tuple [← m.binary "//" a b, ← m.binary "%" a b]
      | "format", [value] => return .text (← m.laidOut value "")
      | "format", [value, layout] => return .text (← m.laidOut value (← Machine.text layout))
      | "isinstance", [value, type] =>
        return .bool (← Value.lift (ClassCheck.isInstance (← get) value type))
      | "issubclass", [type, other] =>
        return .bool (← Value.lift (ClassCheck.isSubclass (← get) type other))
      | "iter", [value] => m.opened value
      | "iter", [function, last] =>
        if isCallable (← get) function then newStream "callable_iterator" (.calls function last)
        else throw .unsuited
      | "next", [value] =>
        match ← m.nextOf? value with
        | some item => return item
        | none => throw .exhausted
      | "next", [value, default] => return (← m.nextOf? value).getD default
      | "getattr", [owner, name] => m.attributeOf owner (← Machine.text name)
      | "getattr", [owner, name, default] =>
        return (← m.attribute? owner (← Machine.text name)).getD default
      | "hasattr", [owner, name] =>
        return .bool (← m.attribute? owner (← Machine.text name)).isSome
      | "setattr", [owner, name, value] => do
        m.setField owner (← Machine.text name) value
        return .nothing
      | "delattr", [owner, name] => do
        dropField owner (← Machine.text name)
        return .nothing
      | "__import__", name :: _ =>
        let name ← Machine.text name
        if name.isEmpty then throw (.badValue "Empty module name")
        else
          let top := (name.splitOn ".").headD name
          if (Names.modules.any fun (known, _) => known = name || known = top) then
            return .module top
          else throw ⟨"ModuleNotFoundError", ""⟩
      | "input", [] | "input", [_] => throw ⟨"EOFError", ""⟩
      | "open", .text _ :: _ => throw ⟨"FileNotFoundError", ""⟩
      | "compile", source :: _ :: _ =>
        let text ← Machine.text source
        match expressionOf text with
        | .ok _ => Value.record "code" [("source", .text text)] .nothing
        | .error fault => throw fault
      | "exit", _ | "quit", _ => throw ⟨"SystemExit", ""⟩
      | "copyright", [] | "credits", [] | "license", [] | "breakpoint", [] => return .nothing
      | _, _ => throw .unsuited

/-- The arguments of a function by position; what is left out between them is nothing. -/
def positioned (name : String) (given : Arguments) : Except Fault Arguments := do
  match Arity.ofFunction? name with
  | none => return given
  | some (names, needed) =>
    let found ← given.placed names needed
    let kept := (found.reverse.dropWhile Option.isNone).reverse
    return ⟨kept.map (·.getD .nothing), []⟩

/-- What a function that is there from the start gives. -/
def callFunction (name : String) (given : Arguments) : Action Value := do
  let given ← Value.lift (positioned name given)
  match ← m.callTypeFunction? name given with
  | some value => return value
  | none =>
    if name.startsWith "operator." then
      m.callOperator ((name.drop 9).toString) given
    else if name.contains '.' then Value.record "object" [] .nothing
    else m.callPlain name given

end Machine

end TypeHint

end CallPlan
