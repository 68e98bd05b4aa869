import CallPlan.TypeHint.ClassValue
import CallPlan.TypeHint.Item

/-!
# CallPlan.TypeHint.Attribute

The attributes of values.

* A value has what it holds itself, and what its class holds. A function that a class holds, asked
  for through a value of the class, is a method of this value.
* A class with arguments has the attributes of the class, apart from those that tell about the
  arguments.
-/

namespace CallPlan

namespace TypeHint

/-! ## What values tell about themselves -/

/-- Members of classes that are the same for all values of a class. -/
def classMethods : List String :=
  ["fromkeys", "from_bytes", "fromhex", "__class_getitem__", "__init_subclass__",
    "__subclasshook__", "__prepare__", "_make", "fromtimestamp"]

/-- The members of numbers and stretches that are values. -/
def plainField? (value : Value) (name : String) : Option Value :=
  let zero (value : Value) : Value :=
    match value with
    | .float _ => .float .zero
    | _ => .int 0
  match value, name with
  | .int n, "real" | .int n, "numerator" => some (.int n)
  | .bool b, "real" | .bool b, "numerator" => some (.int (if b then 1 else 0))
  | .float x, "real" => some (.float x)
  | .int _, "imag" | .bool _, "imag" | .float _, "imag" => some (zero value)
  | .int _, "denominator" | .bool _, "denominator" => some (.int 1)
  | .complex x _, "real" => some (.float x)
  | .complex _ y, "imag" => some (.float y)
  | .range start _ _, "start" => some (.int start)
  | .range _ stop _, "stop" => some (.int stop)
  | .range _ _ step, "step" => some (.int step)
  | .slice start _ _, "start" => some start
  | .slice _ stop _, "stop" => some stop
  | .slice _ _ step, "step" => some step
  | _, _ => none

/-- The last part of a name with dots. -/
def lastPart (name : String) : String := (name.splitOn ".").getLastD name

/-- The form or the class of a generic type. -/
def originOf (origin : String) : Value :=
  if (Text.words Names.forms).contains origin then .form origin else .type origin

/-- The class of which a type with arguments is one. -/
def origin? : Value → Option Value
  | .alias name => some (.type (Names.aliasOrigin name))
  | .generic "Annotated" (type :: _) => some type
  | .generic origin _ => some (originOf origin)
  | .applied origin _ _ => some origin
  | _ => none

/-- The arguments of a type. -/
def typeArguments? : Value → Option (List Value)
  | .generic "Annotated" (type :: _) => some [type]
  | .generic _ parts | .applied _ parts _ | .choice parts => some parts
  | _ => none

/-- What types tell about themselves. -/
def typeField? (store : Store) (value : Value) (name : String) : Option Value :=
  let flag (b : Bool) : Option Value := some (.bool b)
  match name, value with
  | "__origin__", .choice _ => none
  | "__origin__", value => origin? value
  | "__metadata__", .generic "Annotated" (_ :: marks) => some (.tuple marks)
  | "__args__", value => (typeArguments? value).map .tuple
  | "__parameters__", .type name =>
    if TypeForm.typedClasses.contains name then
      some (.tuple ((Names.variableNames.filter fun (n, _) =>
        n = (if name = "IO" then "AnyStr" else "T_co")).map Prod.snd))
    else if Class.isBelow name "Generic" then some (.tuple [])
    else none
  | "__parameters__", value =>
    (typeArguments? value).map fun _ => .tuple (TypeForm.freeVariables store value)
  | "__unpacked__", .applied _ _ isUnpacked => flag isUnpacked
  | "__typing_unpacked_tuple_args__", .applied (.type "tuple") parts true => some (.tuple parts)
  | "__typing_unpacked_tuple_args__", .applied .. => some .nothing
  | "__typing_is_unpacked_typevartuple__", .generic "Unpack" _ =>
    flag (TypeForm.isUnpackedTypes value)
  | "__supertype__", .newType _ _ base => some base
  | "__forward_arg__", .forward text _ => some (.text text)
  | "__forward_evaluated__", .forward .. => flag false
  | "__forward_is_argument__", .forward .. => flag true
  | "__forward_is_class__", .forward _ asForm => flag asForm
  | "__forward_value__", .forward .. | "__forward_module__", .forward .. => some .nothing
  | "_name", .generic origin _ =>
    some (match origin with
      | "Union" =>
        match typeArguments? value with
        | some [a, b] =>
          if (store.isAmong .noneType [a, b]) then .text "Optional" else .nothing
        | _ => .nothing
      | "list" | "dict" | "set" | "frozenset" | "tuple" | "type" | "Callable" =>
        .text (Names.genericName origin)
      | origin =>
        if (Names.aliases.find? fun (_, type, _) => type = origin).isSome then
          .text (Names.genericName origin)
        else .nothing)
  | "_name", .alias name | "_name", .form name => some (.text name)
  | "_inst", .alias name =>
    flag (((Names.alias? name).map fun (_, _, isInstantiable) => isInstantiable).getD true)
  | "_inst", .generic origin _ =>
    flag (!(["list", "dict", "set", "frozenset", "tuple", "type"].contains origin))
  | "_nparams", .alias name =>
    some (.int (((Names.alias? name).bind fun (_, count, _) =>
      count.map Int.ofNat).getD (-1)))
  | "__slots__", .alias _ | "__slots__", .generic .. => some .nothing
  | "__weakref__", .alias _ | "__weakref__", .generic .. | "__weakref__", .form _
  | "__weakref__", .variable .. | "__weakref__", .forward .. => some .nothing
  | "_paramspec_tvars", .generic origin _ => flag (["Callable", "Concatenate"].contains origin)
  | name, .variable _ _ _ fields => List.lookup name fields
  | _, _ => none

/-- The name that a value has of its own. -/
def ownName? (store : Store) : Value → Option String
  | .type name | .function name | .module name => some (lastPart name)
  | .alias name | .form name | .newType _ name _ | .variable _ _ name _ | .member _ name
  | .method _ name => some name
  | .generic "Union" [a, b] => some (if store.isAmong .noneType [a, b] then "Optional" else "Union")
  | .generic origin _ => some (Names.genericName origin)
  | .reference address =>
    match store.get? address with
    | some (.type name ..) => some name
    | some (.closure _) => some "<lambda>"
    | some (.stream "generator" _) => some "<genexpr>"
    | _ => none
  | _ => none

/-- The name of a member of a class, after that of the class that holds it. -/
def qualified? (store : Store) : Value → Option String
  | .member type name => some (type ++ "." ++ name)
  | .method owner name =>
    let type := if TypeForm.isClass store owner then store.baseName owner else store.className owner
    (Class.holder? type name).map (· ++ "." ++ name)
  | _ => none

/-- The module that a value comes from. -/
def home? (store : Store) : Value → Option Value
  | .type name => (Class.find? name).map fun entry => .text entry.home
  | .function name =>
    some (.text (if name.contains '.' then ".".intercalate (name.splitOn ".").dropLast
      else "builtins"))
  | .alias _ | .form _ | .newType .. | .variable .. | .forward .. => some (.text "typing")
  | .generic origin _ => some (match originOf origin with
      | .type name =>
        if Names.genericName name = name then
          .text (((Class.find? name).map (·.home)).getD "typing")
        else .text "typing"
      | _ => .text "typing")
  | .choice _ => some (.text "types")
  | .method _ name => if isSpecialName name then none else some .nothing
  | .reference address =>
    match store.get? address with
    | some (.type ..) =>
      some (.text (if ["ABCMeta", "_ProtocolMeta"].contains
        (store.className (.reference address)) then "abc" else "typing"))
    | some (.closure _) => some (.text "typing")
    | some (.record (.reference _) ..) => some (.text "typing")
    | some (.record (.type name) ..) =>
      (Class.find? name).bind fun entry =>
        if ["builtins", "_io"].contains entry.home then none else some (.text entry.home)
    | _ => none
  | _ => none

namespace Machine

variable (m : Machine)

/-! ## Members of classes -/

/-- What a class gives for a member that it holds, asked for through one of its values. -/
def bound (member type : Value) (owner : Option Value) : Action Value := do
  match member with
  | .reference address =>
    match ← read address, owner with
    | .closure _, some owner =>
      Value.record "method" [("__func__", member), ("__self__", owner)] .nothing
    | .record (.type "staticmethod") fields _, _ =>
      return (List.lookup "__func__" fields).getD .nothing
    | .record (.type "classmethod") fields _, _ =>
      let function := (List.lookup "__func__" fields).getD .nothing
      if ← isClosure function then
        Value.record "method" [("__func__", function), ("__self__", type)] .nothing
      else
        Value.record "partial" [("func", function), ("args", .tuple [type])] .nothing
    | .record (.type "property") fields _, some owner =>
      match (List.lookup "fget" fields).getD .nothing with
      | .nothing => throw .noAttribute
      | function => m.call function ⟨[owner], []⟩
    | _, _ => return member
  | member => return member

/-- What a class that is there from the start holds under a name, asked for through the class. -/
def typeMember? (type name : String) : Option Value :=
  match Class.heldIn? type name, Class.holder? type name with
  | some value, _ => some value
  | none, some holder =>
    if classMethods.contains name then some (.method (.type type) name)
    else some (.member holder name)
  | none, none =>
    if Class.holds (Value.metaclass type) name then some (.method (.type type) name) else none

/-- The bases of a class. -/
def basesOf (store : Store) : Value → List Value
  | .type name => ((Class.find? name).map fun entry => entry.bases.map .type).getD []
  | .reference address =>
    match store.get? address with
    | some (.type _ bases _) => bases
    | _ => []
  | _ => []

/-- What every class tells about itself. -/
def classField? (type : Value) (name : String) : Action (Option Value) := do
  let store ← get
  match name with
  | "__mro__" => return some (.tuple (store.line type))
  | "__bases__" => return some (.tuple (basesOf store type))
  | "__base__" => return some ((basesOf store type).headD .nothing)
  | "__dict__" =>
    let entries : List (Value × Value) := match type with
      | .type name =>
        ((Class.find? name).map fun entry =>
          (Text.words entry.members).filterMap fun word =>
            if word.startsWith "-" || word.isEmpty then none
            else some (.text word, .member name word)).getD []
      | .reference address =>
        match store.get? address with
        | some (.type _ _ fields) => fields.map fun (k, v) => (.text k, v)
        | _ => []
      | _ => []
    match ← Value.table entries with
    | .reference address => return some (.view .whole address)
    | other => return some other
  | "__doc__" =>
    return some (match type with
      | .reference _ => .nothing
      | _ => .text "?")
  | _ => return none

/-- The names of the items of a class of tuples whose items have names. -/
def itemNames? (store : Store) (type : Value) : Option (List String) :=
  match store.madeMember? type "_fields" with
  | some (.tuple names) =>
    some (names.map fun
      | .text name => name
      | _ => "")
  | _ => none

/-- The place of an item that has a name. -/
def itemPlace? (store : Store) (type : Value) (name : String) : Option Nat :=
  (itemNames? store type).bind fun names => names.findIdx? (· = name)

/-- Whether a method is one of tuples whose items have names. -/
def isItemMethod (store : Store) (type : Value) (name : String) : Bool :=
  (Text.words Class.itemMethods).contains name && (itemNames? store type).isSome

/-- An attribute of a class. -/
def classAttribute? (type : Value) (name : String) : Action (Option Value) := do
  let store ← get
  match store.madeMember? type name, itemPlace? store type name with
  | some member, _ => return some (← m.bound member type none)
  | none, some k =>
    return some (← Value.record "_tuplegetter" [("index", .int (k : Nat)),
      ("__doc__", .text ("Alias for field number " ++ toString k))] .nothing)
  | none, none =>
    if isItemMethod store type name then
      return some (if name = "_make" then .method type name else .member "tuple" name)
    else fieldOf store
where
  /-- What a class tells about itself, or holds. -/
  fieldOf (store : Store) : Action (Option Value) := do
    match ← classField? type name, ownName? store type, home? store type, typeField? store type name
      with
    | some value, _, _, _ | none, _, _, some value => return some value
    | none, some own, some home, none =>
      match name, type with
      | "__name__", _ | "__qualname__", _ => return some (.text own)
      | "__module__", _ => return some home
      | "Pattern", .type "re" | "Match", .type "re" => return some (.alias name)
      | "IO", .type "io" | "TextIO", .type "io" | "BinaryIO", .type "io" => return some (.type name)
      | name, .type own => return typeMember? own name
      | name, type => return typeMember? (store.baseName type) name
    | _, _, _, _ => return typeMember? (store.baseName type) name

/-! ## Attributes -/

/-- What a function that was written as an expression tells about itself. -/
def closureField? (closure : Closure) (name : String) : Action (Option Value) := do
  match name with
  | "__defaults__" =>
    let values := closure.defaults.map Prod.snd
    return some (if values.isEmpty then .nothing else .tuple values)
  | "__kwdefaults__" | "__doc__" => return some .nothing
  | "__globals__" => return some (.reference globalAddress)
  | "__builtins__" => return some (.reference builtinAddress)
  | "__closure__" => return some .nothing
  | "__dict__" | "__annotations__" => return some (← Value.table [])
  | "__code__" =>
    let count (kinds : List ParameterKind) : Value :=
      .int ((closure.formals.filter fun formal => kinds.contains formal.kind).length : Nat)
    return some (← Value.record "code" [("co_name", .text "<lambda>"),
      ("co_qualname", .text "<lambda>"), ("co_argcount", count [.positional, .ordinary]),
      ("co_posonlyargcount", count [.positional]), ("co_kwonlyargcount", count [.named]),
      ("co_varnames", .tuple (closure.own.map .text)), ("co_filename", .text "<string>"),
      ("co_nlocals", .int (closure.own.length : Nat))] .nothing)
  | _ => return none

/-- What a function of the language that is there from the start tells about itself. -/
def functionField? (name : String) : Action (Option Value) := do
  match name with
  | "__defaults__" | "__kwdefaults__" | "__closure__" => return some .nothing
  | "__globals__" => return some (.reference globalAddress)
  | "__builtins__" => return some (.reference builtinAddress)
  | "__dict__" | "__annotations__" => return some (← Value.table [])
  | "__code__" => return some (← Value.record "code" [] .nothing)
  | _ => return none

/-- What a stream that a function gives tells about itself. -/
def streamField? (name : String) : Action (Option Value) := do
  match name with
  | "gi_running" | "gi_suspended" => return some (.bool false)
  | "gi_yieldfrom" => return some .nothing
  | "gi_code" => return some (← Value.record "code" [] .nothing)
  | "gi_frame" => return some (← Value.record "frame" [] .nothing)
  | _ => return none

/-- What a window on some octets tells about itself. -/
def windowField? (fields : List (String × Value)) (octets : List Nat) (name : String) :
    Option Value :=
  let size : Value := .int (octets.length : Nat)
  match name with
  | "obj" => List.lookup name fields
  | "readonly" =>
    match List.lookup "obj" fields with
    | some (.reference _) => some (.bool false)
    | _ => some (.bool true)
  | "format" => some (.text "B")
  | "itemsize" | "ndim" => some (.int 1)
  | "nbytes" => some size
  | "shape" => some (.tuple [size])
  | "strides" => some (.tuple [.int 1])
  | "suboffsets" => some (.tuple [])
  | "contiguous" | "c_contiguous" | "f_contiguous" => some (.bool true)
  | _ => none

/-- The names under which a wrapped function tells about itself through what wraps it. -/
def wrappedNames : List String :=
  ["__name__", "__qualname__", "__module__", "__doc__", "__isabstractmethod__"]

/-- Whether a class was made. -/
def isMadeClass : Value → Bool
  | .reference _ => true
  | _ => false

/-- What an object holds itself. -/
def objectField? (object : Object) (name : String) : Action (Option Value) := do
  match object with
  | .closure closure => closureField? closure name
  | .stream "generator" _ => streamField? name
  | .record (.type "memoryview") fields (.bytes octets) => return windowField? fields octets name
  | .record type fields _ =>
    match List.lookup name fields with
    | some value => return some value
    | none =>
      let store ← get
      let base := store.baseName type
      if name = "__dict__" && (TypeForm.isClass store type && base ≠ "partial") then
        return some (← Value.table (fields.map fun (k, v) => (.text k, v)))
      else if name = "__weakref__" && (isMadeClass type || !Class.isNative base) then
        return some .nothing
      else if base = "ChainMap" && name = "parents" then
        let tables ← m.collect ((List.lookup "maps" fields).getD (.tuple []))
        return some (← m.call (.type "ChainMap") ⟨tables.drop 1, []⟩)
      else if Class.isBelow base "BaseException" then
        match name, List.lookup "args" fields with
        | "__cause__", _ | "__context__", _ | "__traceback__", _ => return some .nothing
        | "__suppress_context__", _ => return some (.bool false)
        | "value", some (.tuple (value :: _)) => return some value
        | "value", _ => return some .nothing
        | _, _ => return none
      else return none
  | _ => return none

/-- An attribute that a value has through its class. -/
def inherited? (owner : Value) (name : String) : Action (Option Value) := do
  let store ← get
  let type := store.typeOf owner
  match store.madeMember? type name, itemPlace? store type name with
  | some member, _ => return some (← m.bound member type (some owner))
  | none, some k =>
    match store.plainIn owner with
    | .tuple items => return items[k]?
    | _ => return none
  | none, none =>
    let base := store.baseName type
    if isItemMethod store type name then
      return some (.method (if name = "_make" then type else owner) name)
    else if let some value := Class.heldIn? base name then return some value
    else if Class.holds base name then
      return some (if classMethods.contains name then .method (.type base) name
        else if name = "__new__" then .member base name
        else .method owner name)
    else return none

/-- An attribute of a value that is no class. -/
def ownAttribute? (owner : Value) (name : String) : Action (Option Value) := do
  let store ← get
  let direct? := plainField? (store.plainIn owner) name <|> typeField? store owner name
  match direct?, owner with
  | some value, _ => return some value
  | none, .module module =>
    match List.lookup name (Names.membersOf module) with
    | some value => return some value
    | none =>
      if name = "__dict__" then
        return some (← Value.table (Names.entriesOf (Names.membersOf module)))
      else m.inherited? owner name
  | none, .variable .parameters .. =>
    match name with
    | "args" => return some (← Value.record "ParamSpecArgs" [("__origin__", owner)] .nothing)
    | "kwargs" => return some (← Value.record "ParamSpecKwargs" [("__origin__", owner)] .nothing)
    | _ => described owner name
  | none, .method inner _ =>
    if name = "__self__" then return some inner else described owner name
  | none, .member type _ =>
    if name = "__objclass__" then return some (.type type) else described owner name
  | none, .function function =>
    if owner.plainClass = "function" then
      match ← functionField? name with
      | some value => return some value
      | none => described owner name
    else if name = "__self__" then
      let home := ".".intercalate (function.splitOn ".").dropLast
      return some (.module (if home.isEmpty then "builtins" else home))
    else described owner name
  | none, .reference address =>
    let object ← read address
    match ← m.objectField? object name, object with
    | some value, _ => return some value
    | none, .record (.type "super") fields _ =>
      match ← behind? fields name with
      | some value => return some value
      | none => described owner name
    | none, _ => described owner name
  | none, owner => described owner name
where
  /-- What the classes behind one of those of a value hold for the value. -/
  behind? (fields : List (String × Value)) (name : String) : Action (Option Value) := do
    let store ← get
    match List.lookup "__thisclass__" fields, List.lookup "__self__" fields with
    | some this, some self =>
      let type := if TypeForm.isClass store self then self else store.typeOf self
      let behind := (store.line type).dropWhile fun type => !store.identical type this
      let held? := behind.tail.findSome? fun type =>
        match type with
        | .type holder => if Class.holds holder name then some (holder, none) else none
        | type => (store.madeMember? type name).map fun member => ("", some member)
      match held? with
      | some (_, some member) => return some (← m.bound member type (some self))
      | some (holder, none) =>
        return some (if name = "__new__" then .member holder name else .method self name)
      | none => return none
    | _, _ => return none
  /-- What a value tells by its name and its home, or has through its class. -/
  described (owner : Value) (name : String) : Action (Option Value) := do
    let store ← get
    match name with
    | "__objclass__" =>
      match owner with
      | .method inner own =>
        return (Class.holder? (store.className inner) own).bind fun holder =>
          if Class.memberKind holder own = .slot then some (.type holder) else none
      | _ => m.inherited? owner name
    | "__name__" | "__qualname__" =>
      match (if name = "__qualname__" then qualified? store owner else none) <|>
        ownName? store owner with
      | some own => return some (.text own)
      | none => m.inherited? owner name
    | "__module__" => return home? store owner
    | "__doc__" => return some (.text "?")
    | name => m.inherited? owner name

/-- The attributes that tell about the arguments of a class, or that such a type has itself. -/
def aliasOwn : List String :=
  ["__origin__", "__args__", "__parameters__", "__unpacked__", "__mro_entries__", "__reduce__",
    "__reduce_ex__", "__copy__", "__deepcopy__", "__class__", "__typing_unpacked_tuple_args__"]

/-- An attribute of a value, if it has it; a step of fuel for each class behind a type. -/
def attributeIn (m : Machine) : (fuel : Nat) → Value → String → Action (Option Value)
  | 0, _, _ => return none
  | fuel + 1, owner, name => do
    let store ← get
    if name = "__class__" then return some (store.typeOf owner)
    else if TypeForm.isClass store owner then m.classAttribute? owner name
    else
      match owner with
      | .applied origin .. =>
        if aliasOwn.contains name then m.ownAttribute? owner name
        else attributeIn m fuel origin name
      | .alias _ | .generic .. =>
        match ← m.ownAttribute? owner name with
        | some value => return some value
        | none =>
          match origin? owner with
          | some origin =>
            if isSpecialName name then return none else attributeIn m fuel origin name
          | none => return none
      | .reference address =>
        match wrappedFunction? (store.get? address) with
        | some function =>
          if wrappedNames.contains name then attributeIn m fuel function name
          else m.ownAttribute? owner name
        | none => m.ownAttribute? owner name
      | owner => m.ownAttribute? owner name
where
  /-- The function that an object wraps. -/
  wrappedFunction? : Option Object → Option Value
    | some (.record (.type "staticmethod") fields _)
    | some (.record (.type "classmethod") fields _) => List.lookup "__func__" fields
    | _ => none

/-- An attribute of a value, if it has it. -/
def attribute? (owner : Value) (name : String) : Action (Option Value) := do
  match ← attributeIn m 10 owner name with
  | some value => return some value
  | none => m.special? owner "__getattr__" [.text name]

/-- An attribute of a value. -/
def attributeOf (owner : Value) (name : String) : Action Value := do
  match ← m.attribute? owner name with
  | some value => return value
  | none => throw .noAttribute

end Machine

end TypeHint

end CallPlan
