import CallPlan.TypeHint.Method

/-!
# CallPlan.TypeHint.Call

What calls give.

* The arguments of a call are bound to the parameters of a function: by position, under names, and
  what is left to the parameters that collect such arguments (`bound`). A parameter without an
  argument takes its default.
* A class makes a value of itself. A class that was made makes a value of its base first, and lets
  its own function for that set it up.
-/

namespace CallPlan

namespace TypeHint

namespace Closure

/-- The formal parameters of some kinds. -/
def formalsOf (closure : Closure) (kinds : List ParameterKind) : List Formal :=
  closure.formals.filter fun formal => kinds.contains formal.kind

/-- The arguments of a call at the parameters of a function. -/
def bound (closure : Closure) (given : Arguments) : Action (List (String × Value)) := do
  let placed := closure.formalsOf [.positional, .ordinary]
  let rest := closure.formalsOf [.rest]
  let extras := closure.formalsOf [.extras]
  let taken := (placed.map (·.name)).zip given.values
  let left := given.values.drop placed.length
  let open' := (closure.formalsOf [.ordinary, .named]).map (·.name)
  let (own, other) := given.named.partition fun (name, _) => open'.contains name
  let isTwice := own.any fun (name, _) => taken.any fun (n, _) => n = name
  if (!left.isEmpty && rest.isEmpty) || (!other.isEmpty && extras.isEmpty) || isTwice then
    throw .unsuited
  else
    let found := taken ++ own
    let needed := (closure.formalsOf [.positional, .ordinary, .named]).map (·.name)
    let completed ← needed.mapM fun name => do
      match List.lookup name found, List.lookup name closure.defaults with
      | some value, _ => return (name, value)
      | none, some value => return (name, value)
      | none, none => throw .unsuited
    let rest := rest.map fun formal => (formal.name, Value.tuple left)
    let extras ← extras.mapM fun formal => do
      return (formal.name, ← Value.table (Machine.namedEntries other))
    return completed ++ rest ++ extras

end Closure

namespace Machine

variable (m : Machine)

/-- What a function that was written as an expression gives. -/
def callClosure (closure : Closure) (given : Arguments) : Action Value := do
  let found ← closure.bound given
  let own := closure.own.map fun name => (name, List.lookup name found)
  if closure.isStream then newStream "generator" (.handed closure.scope own closure.body [])
  else
    match ← allocate (.frame false own) with
    | .reference address => m.eval (address :: closure.scope) closure.body
    | _ => throw .unsuited

/-! ## Values of classes -/

/-- The classes that make no values when they are called. -/
def closedClasses : List String :=
  ["Any", "function", "generator", "code", "frame", "UnionType", "dict_keys", "dict_values",
    "dict_items", "builtin_function_or_method", "method_descriptor", "wrapper_descriptor",
    "method-wrapper", "getset_descriptor", "member_descriptor", "classmethod_descriptor",
    "coroutine", "async_generator", "Annotated", "_lru_cache_wrapper", "Pattern", "Match",
    "list_iterator", "tuple_iterator", "set_iterator", "range_iterator", "str_ascii_iterator",
    "dict_keyiterator", "traceback"]

/-- Exceptions that take a fixed number of arguments. -/
def fixedExceptions : List (String × Nat) :=
  [("UnicodeDecodeError", 5), ("UnicodeEncodeError", 5), ("UnicodeTranslateError", 4)]

/-- An exception. -/
def makeException (type : Value) (base : String) (given : Arguments) : Action Value := do
  let isNamed := match base with
    | "ImportError" | "ModuleNotFoundError" => ["name", "path"]
    | "AttributeError" => ["name", "obj"]
    | "NameError" | "UnboundLocalError" => ["name"]
    | _ => []
  if given.named.any (fun (name, _) => !isNamed.contains name) ||
      (List.lookup base fixedExceptions).any (· ≠ given.values.length) then throw .unsuited
  else if Class.isBelow base "BaseExceptionGroup" then
    match given.values with
    | [text, items] =>
      let _ ← Machine.text text
      let items ← m.collect items
      if items.isEmpty then
        throw (.badValue "second argument (exceptions) must be a non-empty sequence")
      else allocate (.record type [("args", .tuple given.values)] .nothing)
    | _ => throw .unsuited
  else allocate (.record type [("args", .tuple given.values)] .nothing)

/-- A value of a class that says what to do with values or functions. -/
def makeWrapper? (type : String) (given : Arguments) : Action (Option Value) := do
  let record (fields : List (String × Value)) : Action (Option Value) := do
    return some (← Value.record type fields .nothing)
  match type with
  | "SimpleNamespace" => if given.values.isEmpty then record given.named else throw .unsuited
  | "partial" =>
    match given.values with
    | function :: values =>
      if isCallable (← get) function then
        let named ← Value.table (namedEntries given.named)
        record [("func", function), ("args", .tuple values), ("keywords", named)]
      else throw .unsuited
    | [] => throw .unsuited
  | "staticmethod" | "classmethod" =>
    match ← Value.lift given.unnamed with
    | [function] => record [("__func__", function), ("__wrapped__", function)]
    | _ => throw .unsuited
  | "property" | "cached_property" | "DynamicClassAttribute" =>
    let found ← Value.lift (given.placed ["fget", "fset", "fdel", "doc"] 0)
    let at' (k : Nat) : Value := (Arguments.at? found k).getD .nothing
    record [("fget", at' 0), ("fset", at' 1), ("fdel", at' 2), ("__doc__", at' 3)]
  | "super" =>
    match ← Value.lift given.unnamed with
    | [] => throw (.badState "super(): no arguments")
    | [type'] =>
      if TypeForm.isClass (← get) type' then
        record [("__thisclass__", type'), ("__self__", .nothing), ("__self_class__", .nothing)]
      else throw .unsuited
    | [type', value] =>
      let store ← get
      let isFit := TypeForm.isClass store type' &&
        (ClassCheck.isBelow store (store.typeOf value) type' ||
          (TypeForm.isClass store value && ClassCheck.isBelow store value type'))
      let own := if TypeForm.isClass store value then value else store.typeOf value
      if isFit then
        record [("__thisclass__", type'), ("__self__", value), ("__self_class__", own)]
      else throw .unsuited
    | _ => throw .unsuited
  | "itemgetter" | "attrgetter" =>
    match ← Value.lift given.unnamed with
    | [] => throw .unsuited
    | values =>
      let _ ← if type = "attrgetter" then values.mapM Machine.text else pure []
      record [("items", .tuple values)]
  | "methodcaller" =>
    match given.values with
    | name :: values =>
      let _ ← Machine.text name
      let named ← Value.table (namedEntries given.named)
      record [("name", name), ("args", .tuple values), ("keywords", named)]
    | [] => throw .unsuited
  | "method" =>
    match ← Value.lift given.unnamed with
    | [function, value] =>
      if isCallable (← get) function then record [("__func__", function), ("__self__", value)]
      else throw .unsuited
    | _ => throw .unsuited
  | "chain" =>
    let lists ← (← Value.lift given.unnamed).mapM m.collect
    return some (← Value.stream type lists.flatten)
  | "repeat" =>
    match given.values with
    | [value, count] =>
      let n ← m.index count
      if (sizeLimit : Int) < n then throw ⟨"MemoryError", ""⟩
      else return some (← Value.stream type (List.replicate n.toNat value))
    | [value] => return some (← Value.stream type (List.replicate 1000 value))
    | _ => throw .unsuited
  | "starmap" =>
    match given.values with
    | [function, source] =>
      let items ← (← m.collect source).mapM fun item => do
        m.call function ⟨← m.collect item, []⟩
      return some (← Value.stream type items)
    | _ => throw .unsuited
  | _ => return none

/-- A new value of a class that is there from the start. -/
def construct (type : String) (given : Arguments) : Action Value := do
  match ← m.makePlain? type given with
  | some value => return value
  | none =>
    match ← m.makeStream? type given with
    | some value => return value
    | none =>
      match ← m.makeTypeLike? type given with
      | some value => return value
      | none =>
        match ← m.makeWrapper? type given with
        | some value => return value
        | none => others type given
where
  /-- A value of a class without a way of its own. -/
  others (type : String) (given : Arguments) : Action Value := do
    let isBare := given.values.isEmpty && given.named.isEmpty
    let listed? := Class.find? type
    if Class.isBelow type "BaseException" then m.makeException (.type type) type given
    else if closedClasses.contains type || listed?.any (·.isAbstract) then throw .unsuited
    else
      match type with
      | "NoneType" => if isBare then return .nothing else throw .unsuited
      | "ellipsis" => if isBare then return .ellipsis else throw .unsuited
      | "NotImplementedType" => if isBare then return .notImplemented else throw .unsuited
      | "module" =>
        let found ← Value.lift (given.placed ["name", "doc"] 1)
        let _ ← Machine.text ((Arguments.at? found 0).getD .nothing)
        Value.record type [("__name__", (Arguments.at? found 0).getD .nothing)] .nothing
      | type =>
        let mayTake := (Class.line type).any fun name =>
          name ≠ "object" && (Class.find? name).any fun entry =>
            (Text.words entry.members).contains "__init__"
        let isInner := type.startsWith "_" && listed?.any (·.home = "typing")
        if isBare && isInner && mayTake then throw .unsuited
        else if isBare || mayTake then Value.record type [] .nothing
        else throw .unsuited

/-- The plain value that a value of a class that was made is. -/
def plainPart (base : String) (given : Arguments) : Action Value := do
  match ← m.makePlain? base given with
  | some (.reference address) =>
    match ← read address with
    | .record _ _ plain => return plain
    | _ => return .reference address
  | some value => return value
  | none => return .nothing

/-- A new value of a class that was made. -/
def constructMade (type : Value) (given : Arguments) : Action Value := do
  let store ← get
  let base := store.baseName type
  match store.madeMember? type "_fields", store.madeMember? type "__required_keys__",
    store.madeMember? type "__new__", store.madeMember? type "__init__" with
  | _, _, some new, _ =>
    let member ← match new with
      | .reference address =>
        match ← read address with
        | .record _ fields _ => pure ((List.lookup "__func__" fields).getD new)
        | _ => pure new
      | member => pure member
    m.call member ⟨type :: given.values, given.named⟩
  | some (.tuple names), _, none, _ =>
    let names := names.map fun
      | .text name => name
      | _ => ""
    let defaults ← match store.madeMember? type "_field_defaults" with
      | some table => pure (((table? store table).map Prod.snd).getD [])
      | none => pure []
    let found ← Value.lift (given.placed names 0)
    let items ← (names.zip found).mapM fun (name, value) => do
      match value, under? store defaults (.text name) with
      | some value, _ | none, some value => return value
      | none, none => throw .unsuited
    allocate (.record type [("_fields", .tuple (names.map .text))] (.tuple items))
  | _, some _, none, _ => m.tableGiven given
  | _, _, none, some init =>
    let plain ← if solidTypes.contains base && base ≠ "BaseException" then
        attemptPlain base
      else pure .nothing
    let value ← allocate (.record type [("args", .tuple given.values)] plain)
    let arguments := if ← isClosure init then value :: given.values else given.values
    match ← m.call init ⟨arguments, given.named⟩ with
    | .nothing => return value
    | _ => throw .unsuited
  | _, _, none, none =>
    if Class.isBelow base "BaseException" then m.makeException type base given
    else
      let plain ← m.plainPart base given
      let isBare := given.values.isEmpty && given.named.isEmpty
      if plain.isNothing && base = "object" && !isBare then throw .unsuited
      else allocate (.record type [] plain)
where
  /-- The plain value that a value begins with, where the arguments suit it. -/
  attemptPlain (base : String) : Action Value := do
    match ← attempt ["TypeError", "ValueError"] (m.plainPart base given) with
    | some value => return value
    | none => m.plainPart base ⟨[], []⟩

/-! ## Calls -/

/-- What a value of a class with a function of its own gives when it is called. -/
def callRecord (owner type : Value) (fields : List (String × Value)) (given : Arguments) :
    Action Value := do
  let store ← get
  let field (name : String) : Value := (List.lookup name fields).getD .nothing
  let namedIn (table : Value) : Action (List (String × Value)) := do
    ((table? store table).map Prod.snd).getD [] |>.mapM fun (key, value) => do
      return (← Machine.text key, value)
  let positions (value : Value) : List Value :=
    match value with
    | .tuple items => items
    | _ => []
  let combined (first second : List (String × Value)) : List (String × Value) :=
    first.filter (fun (name, _) => !second.any fun (n, _) => n = name) ++ second
  match type with
  | .type "method" => m.call (field "__func__") ⟨field "__self__" :: given.values, given.named⟩
  | .type "staticmethod" => m.call (field "__func__") given
  | .type "partial" =>
    let named ← namedIn (field "keywords")
    m.call (field "func") ⟨positions (field "args") ++ given.values, combined named given.named⟩
  | .type "itemgetter" =>
    match ← Value.lift given.unnamed, positions (field "items") with
    | [value], [index] => m.item value index
    | [value], indices => return .tuple (← indices.mapM (m.item value))
    | _, _ => throw .unsuited
  | .type "attrgetter" =>
    match ← Value.lift given.unnamed, positions (field "items") with
    | [value], [name] => follow value name
    | [value], names => return .tuple (← names.mapM (follow value))
    | _, _ => throw .unsuited
  | .type "methodcaller" =>
    match ← Value.lift given.unnamed with
    | [value] =>
      let method ← m.attributeOf value (← Machine.text (field "name"))
      m.call method ⟨positions (field "args"), ← namedIn (field "keywords")⟩
    | _ => throw .unsuited
  | type =>
    match store.madeMember? type "__call__" with
    | some member =>
      let values := if ← isClosure member then owner :: given.values else given.values
      m.call member ⟨values, given.named⟩
    | none => throw .unsuited
where
  /-- What attributes lead to, one after the other. -/
  follow (value name : Value) : Action Value := do
    (((← Machine.text name).splitOn ".")).foldlM m.attributeOf value

/-- What a value gives when it is called. -/
def apply (callee : Value) (given : Arguments) : Action Value := do
  match callee with
  | .function name => m.callFunction name given
  | .member type name => m.callMember type name given
  | .method owner name => m.callMethod owner name given
  | .type name => m.construct name given
  | .alias name =>
    match Names.alias? name with
    | some (type, _, true) => m.construct type given
    | _ => throw .unsuited
  | .generic "Annotated" (type :: _) => m.call type given
  | .generic origin _ =>
    let isOpen := !(["list", "dict", "set", "frozenset", "tuple", "type"].contains origin) &&
      !(Text.words Names.forms).contains origin
    if isOpen then m.construct origin given else throw .unsuited
  | .applied origin .. => m.call origin given
  | .newType .. =>
    let found ← Value.lift (given.placed ["x"] 1)
    return (Arguments.at? found 0).getD .nothing
  | .reference address =>
    match ← read address with
    | .closure closure => m.callClosure closure given
    | .type .. => m.constructMade callee given
    | .record type fields _ => m.callRecord callee type fields given
    | _ => throw .unsuited
  | _ => throw .unsuited

end Machine

end TypeHint

end CallPlan
