import CallPlan.TypeHint.Function

/-!
# CallPlan.TypeHint.SpecialMethod

What values do under names between double underscores.

* Such names stand for operators and for functions. What does not suit an operator is left to the
  other operand.
* An operator that changes its operand writes the outcome in its place, where it can change.
-/

namespace CallPlan

namespace TypeHint

namespace Machine

variable (m : Machine)

/-! ## Names of operators -/

/-- The operator behind a name between double underscores, and whether the operands change
places. -/
def operatorNamed? (name : String) : Option (String × Bool) :=
  operatorNames.findSome? fun (operator, word) =>
    if name = "__" ++ word ++ "__" then some (operator, false)
    else if name = "__r" ++ word ++ "__" then some (operator, true)
    else none

/-- The comparison behind a name between double underscores. -/
def comparisonNamed? (name : String) : Option String :=
  comparisonNames.findSome? fun (operator, own, _) => if own = name then some operator else none

/-- The functions behind names between double underscores. -/
def functionNames : List (String × String) :=
  [("__abs__", "abs"), ("__len__", "len"), ("__repr__", "repr"), ("__hash__", "hash"),
    ("__divmod__", "divmod"), ("__round__", "round"), ("__dir__", "dir"), ("__format__", "format")]

/-- The kind of a value, of which operators take two. -/
def kindOf (store : Store) (value : Value) : String :=
  match store.plainIn value, setItems? store value, table? store value,
    Sequence.of? store value with
  | .int _, _, _, _ | .bool _, _, _, _ => "int"
  | _, some _, _, _ => "set"
  | _, none, some _, _ => "dict"
  | _, none, none, some (.bytes _) | _, none, none, some (.octets _) => "bytes"
  | _, none, none, _ => store.className value

/-- Whether an operator of a value leaves an operand of another kind to that. -/
def leaves (store : Store) (owner other : Value) : Bool :=
  let kind := kindOf store other
  match kindOf store owner with
  | "int" => kind ≠ "int"
  | "float" => !(["int", "float"].contains kind)
  | "complex" => !(["int", "float", "complex"].contains kind)
  | own => own ≠ kind

/-- Whether an operator of a value refuses an operand of another kind on its own account. -/
def refuses (store : Store) (owner : Value) (operator : String) (isReversed : Bool) : Bool :=
  match Sequence.of? store owner, setItems? store owner with
  | some _, _ => ["+", "*"].contains operator || (operator = "%" && !isReversed)
  | none, some (_, isView) => isView
  | none, none => false

/-- What the name of an operator does for a value. -/
def operatorMethod? (owner : Value) (name : String) (given : Arguments) :
    Action (Option Value) := do
  let store ← get
  match operatorNamed? name, comparisonNamed? name, given.values with
  | some (operator, isReversed), _, [other] =>
    let (left, right) := if isReversed then (other, owner) else (owner, other)
    if operator = "|" && TypeForm.isTypeLike owner then
      return some (← TypeForm.union [left, right])
    else if operator = "|" && TypeForm.isClassLike store owner then
      return some ((← TypeForm.either? left right).getD .notImplemented)
    else if leaves store owner other && !refuses store owner operator isReversed then
      return some .notImplemented
    else return some (← m.binary operator left right)
  | _, some operator, [other] =>
    let isAlike := !leaves store owner other && store.className owner ≠ "object"
    if isAlike then
      match ← attempt ["TypeError"] (m.compare operator owner other) with
      | some outcome => return some outcome
      | none => return some .notImplemented
    else if operator = "==" && store.identical owner other then return some (.bool true)
    else return some .notImplemented
  | some ("**", isReversed), _, [other, modulus] =>
    if isReversed || leaves store owner other then return some .notImplemented
    else return some (← m.powerOf owner other modulus)
  | _, _, [other] =>
    let isDivision := name = "__divmod__" || name = "__rdivmod__"
    if isDivision && leaves store owner other then return some .notImplemented
    else if name = "__rdivmod__" then
      return some (← m.callPlain "divmod" ⟨[other, owner], []⟩)
    else return none
  | _, _, _ => return none

/-- The operators that change their operand, by the names under which classes hold them. -/
def changingNames : List (String × String) :=
  [("__iadd__", "+"), ("__isub__", "-"), ("__imul__", "*"), ("__iand__", "&"), ("__ior__", "|"),
    ("__ixor__", "^")]

/-- What an operator does that changes its operand. -/
def changingMethod? (owner : Value) (name : String) (given : Arguments) :
    Action (Option Value) := do
  match List.lookup name changingNames, given.values, ← owner.plain with
  | some operator, [other], .reference address =>
    let store ← get
    let base := store.className owner
    match store.get? address, operator with
    | some (.list items), "+" => do
      if base = "deque" then
        let _ ← m.listMethod? address items true none "extend" given
      else write address (.list (items ++ (← m.collect other)))
      return some owner
    | some (.octets octets), "+" => do
      write address (.octets (octets ++ (← pointsOf true other)))
      return some owner
    | some (.list items), "*" => do
      match ← Value.lift ((Sequence.list items).repeated (← m.index other)) with
      | .list items => write address (.list items)
      | _ => pure ()
      return some owner
    | some (.octets octets), "*" => do
      match ← Value.lift ((Sequence.octets octets).repeated (← m.index other)) with
      | .octets octets => write address (.octets octets)
      | _ => pure ()
      return some owner
    | some (.set items), operator =>
      match kindOf store other, setItems? store other with
      | "set", some (others, false) => do
        write address (.set ((setOperation? store operator items others).getD items))
        return some owner
      | _, _ => return some .notImplemented
    | some (.table _), operator =>
      if base = "Counter" then
        if (table? store other).isNone then throw .noAttribute
        else
          match ← countsTogether? operator owner other with
          | some outcome =>
            write address (.table (((table? (← get) outcome).map Prod.snd).getD []))
            return some owner
          | none => return none
      else if operator = "|" then do
        updateTable address (← m.entriesOf other)
        return some owner
      else return none
    | _, _ => return none
  | _, _, _ => return none

/-! ## Names of functions -/

/-- The classes that set their values up as they make them. -/
def selfMade : List String :=
  ["int", "bool", "float", "complex", "str", "bytes", "tuple", "frozenset", "range", "slice",
    "NoneType", "ellipsis", "NotImplementedType", "enumerate", "zip", "map", "filter", "reversed",
    "memoryview", "mappingproxy", "partial", "method", "function", "itemgetter", "attrgetter",
    "methodcaller", "GenericAlias"]

/-- Sets a value up again: gives a container other items. -/
def refill (owner : Value) (given : Arguments) : Action Unit := do
  let store ← get
  let base := store.className owner
  let isBare := given.values.isEmpty && given.named.isEmpty
  match ← owner.plain with
  | .reference address =>
    match ← read address with
    | .list _ => write address (.list (← m.itemsGiven given))
    | .table entries =>
      let new ← m.tableGiven given
      let store ← get
      let added := ((table? store new).map Prod.snd).getD []
      write address (.table (added.foldl (fun found (key, value) =>
        Value.inserted store found key value) entries))
    | .set _ =>
      let items ← m.itemsGiven given
      Value.hashed items
      write address (.set ((← get).distinct items))
    | .octets _ => write address (.octets (← m.octetsOf false given))
    | .record .. =>
      if Class.isBelow base "BaseException" then
        if given.named.isEmpty then m.setField owner "args" (.tuple given.values)
        else throw .unsuited
      else if (base = "staticmethod" || base = "classmethod") && given.values.length ≠ 1 then
        throw .unsuited
      else if base = "object" && !isBare then throw .unsuited
      else return ()
    | _ => if Class.holder? base "__init__" = some "object" && !isBare then throw .unsuited
  | _ =>
    let isOwn := Class.holder? base "__init__" ≠ some "object" || selfMade.contains base
    if !isBare && !isOwn then throw .unsuited

/-- What stands for a value where it is stored: the arguments that make it. -/
def newArguments? (store : Store) (value : Value) : Option Value :=
  match store.plainIn value with
  | .bool b => some (.tuple [.int (if b then 1 else 0)])
  | .complex x y => some (.tuple [.float x, .float y])
  | .int n => some (.tuple [.int n])
  | .float x => some (.tuple [.float x])
  | .text s => some (.tuple [.text s])
  | .bytes octets => some (.tuple [.bytes octets])
  | .tuple items =>
    some (.tuple (if (itemNames? store (store.typeOf value)).isSome then items else [.tuple items]))
  | _ => none

/-- What a member of a class gives for a value, or as itself where there is none. -/
def boundMember (type name : String) (values : List Value) : Action Value := do
  match values with
  | [.nothing] | [.nothing, .nothing] => throw .unsuited
  | .nothing :: _ => return .member type name
  | value :: _ =>
    let store ← get
    let kind := Class.memberKind type name
    if kind = .function then
      Value.record "method" [("__func__", .member type name), ("__self__", value)] .nothing
    else if !ClassCheck.isBelow store (store.typeOf value) (.type type) then throw .unsuited
    else if Class.isCallable type name then return .method value name
    else m.attributeOf value name
  | [] => throw .unsuited

/-- What the name of a function does for a value. -/
def functionMethod? (owner : Value) (name : String) (given : Arguments) :
    Action (Option Value) := do
  match List.lookup name functionNames with
  | some function => return some (← m.callPlain function ⟨owner :: given.values, given.named⟩)
  | none =>
    match name, given.values with
    | "__str__", [] => return some (.text (← m.display owner))
    | "__bool__", [] => return some (.bool (← m.truth owner))
    | "__iter__", [] => return some (← m.opened owner)
    | "__reversed__", [] => return some (← m.reverseOf owner)
    | "__next__", [] =>
      match ← m.nextOf? owner with
      | some item => return some item
      | none => throw .exhausted
    | "__contains__", [item] => return some (.bool (← m.isIn item owner))
    | "__getitem__", [index] => return some (← m.item owner index)
    | "__setitem__", [index, value] => do
      m.setItem owner index value
      return some .nothing
    | "__delitem__", [index] => do
      m.dropItem owner index
      return some .nothing
    | "__getattribute__", [name] => return some (← m.attributeOf owner (← Machine.text name))
    | "__getattr__", [name] =>
      match ← name.plain, TypeForm.isTypeLike owner with
      | .text name, _ => return some (← m.attributeOf owner name)
      | name, true => do
        Value.hashed [name]
        throw .noAttribute
      | _, false => throw .unsuited
    | "__setattr__", [name, value] => do
      m.setField owner (← Machine.text name) value
      return some .nothing
    | "__delattr__", [name] => do
      dropField owner (← Machine.text name)
      return some .nothing
    | "__neg__", [] => return some (← m.unary "-" owner)
    | "__pos__", [] => return some (← m.unary "+" owner)
    | "__invert__", [] => return some (← m.unary "~" owner)
    | "__int__", [] | "__trunc__", [] => return some (← m.makeInt ⟨[owner], []⟩)
    | "__index__", [] => return some (.int (← m.index owner))
    | "__float__", [] => return some (.float (← m.realOf owner))
    | "__complex__", [] => return some (← m.makeComplex ⟨[owner], []⟩)
    | "__floor__", [] =>
      match Numeral.of? (← owner.plain) with
      | some (.float x) =>
        let _ ← Value.lift (Numeral.truncated x)
        return some (.int (x.floor?.getD 0))
      | some (.int n) => return some (.int n)
      | _ => return some owner
    | "__ceil__", [] =>
      match Numeral.of? (← owner.plain) with
      | some (.float x) =>
        let _ ← Value.lift (Numeral.truncated x)
        return some (.int (-(x.neg.floor?.getD 0)))
      | some (.int n) => return some (.int n)
      | _ => return some owner
    | "__call__", values => return some (← m.call owner ⟨values, given.named⟩)
    | "__sizeof__", [] => return some (.int 28)
    | "__init__", _ => do
      m.refill owner given
      return some .nothing
    | "__init_subclass__", _ => return some .nothing
    | "__subclasshook__", _ => return some .notImplemented
    | "__enter__", [] | "__await__", [] | "__copy__", [] | "__deepcopy__", [_] => return some owner
    | "__exit__", _ => return some .nothing
    | "__get__", values =>
      match owner, values with
      | .member type name, values => return some (← m.boundMember type name values)
      | _, [.nothing] | _, [.nothing, .nothing] | _, [] => throw .unsuited
      | owner, .nothing :: _ => return some owner
      | owner, value :: rest =>
        let type := rest.headD ((← get).typeOf value)
        match owner with
        | .reference address =>
          match ← read address with
          | .record (.type "super") .. => return some owner
          | .record (.type base) .. =>
            if ["property", "staticmethod", "classmethod"].contains base then
              return some (← m.bound owner type (some value))
            else pure ()
          | _ => pure ()
        | _ => pure ()
        return some (← Value.record "method" [("__func__", owner), ("__self__", value)] .nothing)
    | "__getnewargs__", [] => return newArguments? (← get) owner
    | "__missing__", [key] =>
      match table? (← get) owner with
      | some (address, _) => return some (← m.missingEntry owner key address)
      | none => return none
    | "__mro_entries__", [_] =>
      match owner with
      | .applied origin .. => return some (.tuple [origin])
      | _ => return none
    | "__instancecheck__", [value] =>
      return some (.bool (← Value.lift (ClassCheck.isInstance (← get) value owner)))
    | "__subclasscheck__", [type] =>
      return some (.bool (← Value.lift (ClassCheck.isSubclass (← get) type owner)))
    | "__reduce__", [] | "__reduce_ex__", [_] | "__getstate__", [] => return some (.tuple [])
    | "__length_hint__", [] => return some (.int ((((← get).length? owner).getD 0 : Nat)))
    | _, _ => return none

/-- What a value does under a name between double underscores. -/
def specialMethod? (owner : Value) (name : String) (given : Arguments) :
    Action (Option Value) := do
  match ← m.operatorMethod? owner name given with
  | some value => return some value
  | none =>
    match ← m.changingMethod? owner name given with
    | some value => return some value
    | none => m.functionMethod? owner name given

end Machine

end TypeHint

end CallPlan
