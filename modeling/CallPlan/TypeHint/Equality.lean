import CallPlan.TypeHint.Class
import CallPlan.TypeHint.Names
import CallPlan.Text.Surrogate

/-!
# CallPlan.TypeHint.Equality

What values are, and which are equal.

* The class of a value (`className`) tells what it holds. A value of a class that was made is also
  the plain value in it (`plainIn`).
* Numbers are equal by what they count, lists item by item, tables and sets in any order, and the
  alternatives of a choice of types too. Other objects are equal only to themselves.
* Values that can change have no hash; `isHashableIn` tells which do.
* Objects may stand in one another in a circle, so what looks into them takes fuel for its depth.
-/

namespace CallPlan

namespace TypeHint

/-! ## Classes of values -/

/-- The homes of functions that are not written in the language itself. -/
def nativeHomes : List String := ["operator.", "sys."]

/-- The functions of other homes that are not written in the language itself. -/
def nativeFunctions : List String :=
  ["functools.reduce", "functools.cmp_to_key", "collections._count_elements"]

/-- Whether a name stands between double underscores. -/
def isSpecialName (name : String) : Bool := name.startsWith "__" && name.endsWith "__"

namespace Value

/-- The class of a form with arguments. -/
def genericClass (origin : String) : String :=
  match origin with
  | "Union" => "_UnionGenericAlias"
  | "Literal" => "_LiteralGenericAlias"
  | "Annotated" => "_AnnotatedAlias"
  | "Callable" => "_CallableGenericAlias"
  | "Concatenate" => "_ConcatenateGenericAlias"
  | "Unpack" => "_UnpackGenericAlias"
  | _ => "_GenericAlias"

/-- The class of a class that is there from the start. -/
def metaclass (name : String) : String :=
  match Class.find? name with
  | some entry =>
    if name = "Any" then "_AnyMeta"
    else if ["Protocol", "SupportsInt", "SupportsFloat", "SupportsComplex", "SupportsBytes",
      "SupportsIndex", "SupportsAbs", "SupportsRound"].contains name then "_ProtocolMeta"
    else if entry.home = "collections.abc" ||
      ["UserDict", "UserList", "UserString", "ChainMap", "AbstractContextManager",
        "AbstractAsyncContextManager"].contains name then "ABCMeta"
    else "type"
  | none => "type"

/-- The class of a value that is no object. -/
def plainClass : Value → String
  | .nothing => "NoneType"
  | .ellipsis => "ellipsis"
  | .notImplemented => "NotImplementedType"
  | .bool _ => "bool"
  | .int _ => "int"
  | .float _ => "float"
  | .complex .. => "complex"
  | .text _ => "str"
  | .bytes _ => "bytes"
  | .tuple _ => "tuple"
  | .frozenSet _ => "frozenset"
  | .range .. => "range"
  | .slice .. => "slice"
  | .module _ => "module"
  | .function name =>
    if !name.contains '.' || nativeHomes.any (name.startsWith ·) ||
        nativeFunctions.contains name then
      "builtin_function_or_method"
    else "function"
  | .member holder name => Class.memberClass holder name
  | .method .. => "builtin_function_or_method"
  | .type name => metaclass name
  | .alias "Callable" => "_CallableType"
  | .alias "Tuple" => "_TupleType"
  | .alias _ => "_SpecialGenericAlias"
  | .form "Literal" => "_LiteralSpecialForm"
  | .form _ => "_SpecialForm"
  | .variable .type .. => "TypeVar"
  | .variable .parameters .. => "ParamSpec"
  | .variable .types .. => "TypeVarTuple"
  | .newType .. => "NewType"
  | .forward .. => "ForwardRef"
  | .applied .. => "GenericAlias"
  | .generic origin _ => genericClass origin
  | .choice _ => "UnionType"
  | .view .keys _ => "dict_keys"
  | .view .values _ => "dict_values"
  | .view .entries _ => "dict_items"
  | .view .whole _ => "mappingproxy"
  | .reference _ => "object"

end Value

namespace Store

/-- How deep values stand in one another at most where they are compared. -/
def depthLimit : Nat := 300

/-- The plain value that a value of a class is; other values are that themselves. -/
def plainIn (store : Store) (value : Value) : Value :=
  match value with
  | .reference address =>
    match store.get? address with
    | some (.record _ _ plain) => if plain.isNothing then value else plain
    | _ => value
  | value => value

/-- The classes that a class is one of, in order; a step of fuel for each level of bases. -/
def lineOf (store : Store) : (fuel : Nat) → Value → List Value
  | _, .type name => (Class.line name).map .type
  | 0, value => [value]
  | fuel + 1, value =>
    match value with
    | .reference address =>
      match store.get? address with
      | some (.type _ bases _) =>
        let lines := bases.flatMap (lineOf store fuel)
        -- a class stands behind all that are below it, so of its places the last one counts
        value :: (lines.reverse.foldl (fun found v =>
            if found.any (isSame v) then found else v :: found)
          [])
      | _ => [value]
    | value => [value]
where
  /-- Whether two classes are the same. -/
  isSame : Value → Value → Bool
    | .type a, .type b => decide (a = b)
    | .reference a, .reference b => decide (a = b)
    | _, _ => false

/-- The classes that a class is one of, in order. -/
def line (store : Store) (type : Value) : List Value := store.lineOf depthLimit type

/-- The name of the first class of those of a class that is there from the start. -/
def baseName (store : Store) (type : Value) : String :=
  ((store.line type).findSome? fun
    | .type name => some name
    | _ => none).getD "object"

/-- The class of a class that was made: the first one among those of its classes that says more than
others. -/
def metaclassOf (store : Store) (type : Value) (fields : List (String × Value)) : Value :=
  let own? := (store.line type).findSome? fun
    | .type name =>
      let metaclass := Value.metaclass name
      if metaclass = "type" then none else some metaclass
    | _ => none
  .type (if (List.lookup "__total__" fields).isSome then "_TypedDictMeta" else own?.getD "type")

/-- The class of a value. -/
def typeOf (store : Store) : Value → Value
  | .reference address =>
    match store.get? address with
    | some (.list _) => .type "list"
    | some (.table _) => .type "dict"
    | some (.set _) => .type "set"
    | some (.octets _) => .type "bytearray"
    | some (.frame ..) => .type "frame"
    | some (.closure _) => .type "function"
    | some (.stream type _) => .type type
    | some (.type _ _ fields) => metaclassOf store (.reference address) fields
    | some (.record type ..) => type
    | none => .type "object"
  | .method (.type type) name =>
    if Class.holds type name then .type (Class.boundClass type name)
    else .type (Class.methodClass (Value.metaclass type) name)
  | .method owner name => .type (Class.methodClass (store.baseName (typeOf store owner)) name)
  | value => .type value.plainClass

/-- The name of the class of a value; for a class that was made, of its first base that was there
from the start. -/
def className (store : Store) (value : Value) : String := store.baseName (store.typeOf value)

/-- What the classes that were made among those of a class hold under a name. -/
def madeMember? (store : Store) (type : Value) (name : String) : Option Value :=
  (store.line type).findSome? fun
    | .reference address =>
      match store.get? address with
      | some (.type _ _ fields) => List.lookup name fields
      | _ => none
    | _ => none

/-! ## Equality -/

/-- Whether two complex numbers are equal: the whole number, the real and the imaginary part of
each. -/
def equalNumbers (a b : Value) : Option Bool :=
  let parts : Value → Option (((Int × Nat) ⊕ Binary64) × Binary64)
    | .int n => some (.inl (n, 1), .zero)
    | .bool b => some (.inl (if b then 1 else 0, 1), .zero)
    | .float x => some (real x, .zero)
    | .complex x y => some (real x, y)
    | _ => none
  match parts a, parts b with
  | some (x, y), some (u, v) =>
    let sameReal := match x, u with
      | .inl (m, k), .inl (n, l) => decide (m * l = n * k)
      | .inr x, .inr u => decide (x = u ∧ x ≠ .nan)
      | _, _ => false
    some (sameReal && (y = v && y ≠ .nan || (y.isZero && v.isZero)))
  | _, _ => none
where
  /-- A number as a quotient, unless it is none. -/
  real (x : Binary64) : (Int × Nat) ⊕ Binary64 :=
    match x.toRatio? with
    | some ratio => .inl ratio
    | none => .inr x

/-- What of a value is compared. -/
inductive Content where
  | items (kind : String) (items : List Value)
  | table (entries : List (Value × Value))
  | set (items : List Value)
  | octets (octets : List Nat)
  | other (value : Value)

/-- The items of a stretch of whole numbers. -/
def rangeItems (start stop step : Int) : List Int :=
  let count := if 0 < step then (stop - start + step - 1) / step
    else if step < 0 then (start - stop - step - 1) / -step else 0
  (List.range count.toNat).map fun k => start + Int.ofNat k * step

/-- What of a value is compared. -/
def content (store : Store) (value : Value) : Content :=
  match store.plainIn value with
  | .tuple items => .items "tuple" items
  | .frozenSet items => .set items
  | .bytes octets => .octets octets
  | .view kind address =>
    match store.get? address, kind with
    | some (.table entries), .keys => .set (entries.map Prod.fst)
    | some (.table entries), .entries => .set (entries.map fun (k, v) => .tuple [k, v])
    | some (.table entries), .whole => .table entries
    | _, _ => .other value
  | .reference address =>
    match store.get? address with
    | some (.list items) =>
      .items (match value with
        | .reference outer => if outer = address then "list" else store.className value
        | _ => "list") items
    | some (.table entries) => .table entries
    | some (.set items) => .set items
    | some (.octets octets) => .octets octets
    | some (.record (.type "SimpleNamespace") fields _) =>
      .table (fields.map fun (name, value) => (.text name, value))
    | _ => .other value
  | plain => .other plain

/-- Whether two values are equal; a step of fuel for each level of them. -/
def equalIn (store : Store) : (fuel : Nat) → Value → Value → Bool
  | 0, _, _ => false
  | fuel + 1, a, b =>
    let same := equalIn store fuel
    let sameAll (xs ys : List Value) : Bool :=
      decide (xs.length = ys.length) && (xs.zip ys).all fun (x, y) => same x y
    let among (xs ys : List Value) : Bool := xs.all fun x => ys.any (same x)
    match store.plainIn a, store.plainIn b with
    | .reference x, .reference y =>
      decide (x = y) || compared store sameAll among (store.content a) (store.content b)
    | .choice xs, .choice ys | .choice xs, .generic "Union" ys | .generic "Union" xs, .choice ys
    | .generic "Union" xs, .generic "Union" ys => among xs ys && among ys xs
    | .generic "Literal" xs, .generic "Literal" ys =>
      let typed (values : List Value) : List Value :=
        values.map fun value => .tuple [value, store.typeOf value]
      among (typed xs) (typed ys) && among (typed ys) (typed xs)
    | .generic o xs, .generic p ys => decide (o = p) && sameAll xs ys
    | .applied o xs u, .applied p ys v => same o p && decide (u = v) && sameAll xs ys
    | .slice x y z, .slice u v w => sameAll [x, y, z] [u, v, w]
    | .method o m, .method p n => decide (m = n) && same o p
    | .range x y z, .range u v w =>
      let key (x y z : Int) : Nat × Int × Int :=
        let count := if 0 < z then ((y - x + z - 1) / z).toNat
          else if z < 0 then ((x - y - z - 1) / -z).toNat else 0
        (count, if count = 0 then 0 else x, if count ≤ 1 then 0 else z)
      decide (key x y z = key u v w)
    | x, y =>
      match equalNumbers x y with
      | some outcome => outcome
      | none => compared store sameAll among (store.content a) (store.content b)
where
  /-- Whether the contents of two values are equal. -/
  compared (_store : Store) (sameAll among : List Value → List Value → Bool) :
      Content → Content → Bool
    | .items k xs, .items l ys => decide (k = l) && sameAll xs ys
    | .table xs, .table ys =>
      let pairs (entries : List (Value × Value)) : List Value :=
        entries.map fun (k, v) => .tuple [k, v]
      decide (xs.length = ys.length) && among (pairs xs) (pairs ys)
    | .set xs, .set ys => decide (xs.length = ys.length) && among xs ys
    | .octets xs, .octets ys => decide (xs = ys)
    | .other x, .other y => sameAtom x y
    | _, _ => false
  /-- Whether two values without parts are equal. -/
  sameAtom : Value → Value → Bool
    | .nothing, .nothing | .ellipsis, .ellipsis | .notImplemented, .notImplemented => true
    | .text x, .text y | .module x, .module y | .function x, .function y | .type x, .type y
    | .alias x, .alias y | .form x, .form y => decide (x = y)
    | .member x m, .member y n => decide (x = y ∧ m = n)
    | .variable _ x _ _, .variable _ y _ _ | .newType x _ _, .newType y _ _ => decide (x = y)
    | .forward x _, .forward y _ => decide (x = y)
    | .view k x, .view l y => decide (k = l ∧ x = y)
    | .reference x, .reference y => decide (x = y)
    | _, _ => false

/-- Whether two values are equal. -/
def equal (store : Store) (a b : Value) : Bool := store.equalIn depthLimit a b

/-- Whether a value is among others. -/
def isAmong (store : Store) (value : Value) (others : List Value) : Bool :=
  others.any (store.equal value)

/-- Values without repetitions, each at its first place. -/
def distinct (store : Store) (values : List Value) : List Value :=
  (values.foldl (fun found value => if store.isAmong value found then found else value :: found)
    []).reverse

/-- Whether two values are one and the same. -/
def identical (store : Store) (a b : Value) : Bool :=
  match a, b with
  | .reference x, .reference y => decide (x = y)
  | .reference _, _ | _, .reference _ => false
  | .int m, .int n => decide (m = n)
  | .bool m, .bool n => decide (m = n)
  | .int _, _ | _, .int _ | .bool _, _ | _, .bool _ | .complex .., .complex .. => false
  | .float x, .float y => decide (x = y ∧ x = .nan)
  | .tuple [], .tuple [] => true
  | a, b => store.equal a b

/-! ## Hashes and truth -/

/-- Whether a value has a hash; a step of fuel for each level of it. -/
def isHashableIn (store : Store) : (fuel : Nat) → Value → Bool
  | 0, _ => true
  | fuel + 1, value =>
    let all (values : List Value) : Bool := values.all (isHashableIn store fuel)
    match value with
    | .tuple items | .choice items | .generic _ items => all items
    | .applied origin parts _ => all (origin :: parts)
    | .slice .. => false
    | .reference address =>
      match store.get? address with
      | some (.record (.reference type) _ plain) =>
        match store.madeMember? (.reference type) "__hash__",
          store.madeMember? (.reference type) "__eq__" with
        | some hash, _ => !hash.isNothing
        | none, some _ => false
        | none, none =>
          Class.holds (store.baseName (.reference type)) "__hash__" && all [plain]
      | some (.record (.type name) _ _) => Class.holds name "__hash__"
      | some (.list _) | some (.table _) | some (.set _) | some (.octets _) => false
      | _ => true
    | .view .values _ => true
    | .view .. => false
    | _ => true

/-- Whether a value has a hash. -/
def isHashable (store : Store) (value : Value) : Bool := store.isHashableIn depthLimit value

/-- How many items a value has, if it has any number of them. -/
def length? (store : Store) (value : Value) : Option Nat :=
  match store.plainIn value with
  | .text s => some (Text.length s)
  | .bytes octets => some octets.length
  | .tuple items | .frozenSet items => some items.length
  | .range start stop step =>
    some (if 0 < step then ((stop - start + step - 1) / step).toNat
      else if step < 0 then ((start - stop - step - 1) / -step).toNat else 0)
  | .view _ address | .reference address =>
    match store.get? address with
    | some (.list items) | some (.set items) => some items.length
    | some (.table entries) => some entries.length
    | some (.octets octets) => some octets.length
    | _ => none
  | _ => none

/-- Whether a value counts as true. -/
def truth (store : Store) (value : Value) : Bool :=
  match store.plainIn value with
  | .nothing => false
  | .bool b => b
  | .int n => decide (n ≠ 0)
  | .float x => !x.isZero
  | .complex x y => !(x.isZero && y.isZero)
  | plain => (store.length? plain).all (· ≠ 0)

end Store

namespace Value

/-- Whether two values are equal, in the store at present. -/
def same (a b : Value) : Action Bool := return (← get).equal a b

/-- Whether a value has a hash, in the store at present. -/
def isHashable (value : Value) : Action Bool := return (← get).isHashable value

/-- The plain value that a value is, in the store at present. -/
def plain (value : Value) : Action Value := return (← get).plainIn value

/-- The name of the class of a value, in the store at present. -/
def className (value : Value) : Action String := return (← get).className value

/-- Checks that values have hashes. -/
def hashed (values : List Value) : Action Unit := do
  let store ← get
  if values.all store.isHashable then pure () else throw .unsuited

/-- A new set. -/
def setOf (values : List Value) : Action Value := do
  hashed values
  allocate (.set ((← get).distinct values))

/-- Entries of a table, written one after the other: a key keeps its first place and its last
value. -/
def inserted (store : Store) (entries : List (Value × Value)) (key value : Value) :
    List (Value × Value) :=
  if entries.any fun (k, _) => store.equal k key then
    entries.map fun (k, v) => (k, if store.equal k key then value else v)
  else entries ++ [(key, value)]

/-- A new table. -/
def tableOf (entries : List (Value × Value)) : Action Value := do
  hashed (entries.map Prod.fst)
  let store ← get
  table (entries.foldl (fun found (key, value) => inserted store found key value) [])

end Value

end TypeHint

end CallPlan
