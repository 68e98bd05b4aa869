import CallPlan.TypeHint.Names
import CallPlan.TypeHint.Equality

/-!
# CallPlan.TypeHint.ClassValue

What classes hold that is neither a function nor a part of their values.

* A class tells which names its values may hold, which of its functions have to be defined before it
  has values, and what it was made of.
* What a class holds is found in the order of its classes, along with everything else that they hold
  (`heldIn?`); a name that is withdrawn stands for nothing.
-/

namespace CallPlan

namespace TypeHint

namespace Class

/-- The functions that have to be defined before classes have values. -/
def abstractMembers : List (String × String) :=
  [("AsyncGenerator", "asend athrow"), ("AsyncIterable", "__aiter__"),
    ("AsyncIterator", "__anext__"), ("Awaitable", "__await__"),
    ("ByteString", "__len__ __getitem__"), ("Callable", "__call__"),
    ("Collection", "__len__ __iter__ __contains__"), ("Container", "__contains__"),
    ("Coroutine", "__await__ throw send"), ("Generator", "throw send"), ("Hashable", "__hash__"),
    ("Iterable", "__iter__"), ("Iterator", "__next__"), ("Mapping", "__len__ __iter__ __getitem__"),
    ("MutableMapping", "__len__ __delitem__ __setitem__ __getitem__ __iter__"),
    ("MutableSequence", "__len__ __delitem__ __setitem__ __getitem__ insert"),
    ("MutableSet", "__len__ add __contains__ __iter__ discard"),
    ("Reversible", "__iter__ __reversed__"), ("Sequence", "__len__ __getitem__"),
    ("Set", "__len__ __iter__ __contains__"), ("Sized", "__len__"),
    ("AbstractAsyncContextManager", "__aexit__"), ("AbstractContextManager", "__exit__"),
    ("SupportsAbs", "__abs__"), ("SupportsBytes", "__bytes__"),
    ("SupportsComplex", "__complex__"), ("SupportsFloat", "__float__"),
    ("SupportsIndex", "__index__"), ("SupportsInt", "__int__"), ("SupportsRound", "__round__")]

/-- The names that the values of classes may hold, where classes tell them. -/
def slotNames : List (String × String) :=
  [("_Link", "prev next key __weakref__"), ("MappingView", "_mapping"), ("CacheInfo", ""),
    ("Annotated", ""), ("BinaryIO", ""), ("Generic", ""), ("IO", ""), ("Protocol", ""),
    ("SupportsAbs", ""), ("SupportsBytes", ""), ("SupportsComplex", ""), ("SupportsFloat", ""),
    ("SupportsIndex", ""), ("SupportsInt", ""), ("SupportsRound", ""), ("TextIO", ""),
    ("ForwardRef", "__forward_arg__ __forward_code__ __forward_evaluated__ __forward_value__
      __forward_is_argument__ __forward_is_class__ __forward_module__"),
    ("_Final", "__weakref__"), ("_Immutable", ""), ("_NotIterable", ""),
    ("_SpecialForm", "_name __doc__ _getitem")]

/-- The classes that say what their values do, of which no values are made. -/
def protocols : List String :=
  ["Protocol", "SupportsAbs", "SupportsBytes", "SupportsComplex", "SupportsFloat", "SupportsIndex",
    "SupportsInt", "SupportsRound"]

/-- What a class was made of, where it was made of types with arguments. -/
def originalBases? (name : String) : Option (List Value) :=
  let placeholder (name : String) : Option Value := List.lookup name Names.variableNames
  match name with
  | "IO" => (placeholder "AnyStr").map fun v => [.generic "Generic" [v]]
  | "BinaryIO" => some [.generic "IO" [.type "bytes"]]
  | "TextIO" => some [.generic "IO" [.type "str"]]
  | "SupportsAbs" | "SupportsRound" =>
    (placeholder "T_co").map fun v => [.generic "Protocol" [v]]
  | _ => none

/-- What a class itself holds under a name that is neither a function nor a part of its values. -/
def value? (name member : String) : Option Value :=
  let texts (names : String) : List Value := (Text.words names).map .text
  match member with
  | "__slots__" =>
    match List.lookup name slotNames, find? name with
    | some names, _ => some (.tuple (texts names))
    | none, some entry => if entry.home = "collections.abc" then some (.tuple []) else none
    | none, none => none
  | "__abstractmethods__" =>
    if ["ABCMeta", "_ProtocolMeta"].contains (Value.metaclass name) then
      some (.frozenSet (texts ((List.lookup name abstractMembers).getD "")))
    else none
  | "_is_protocol" =>
    if name = "Generic" then some (.bool false)
    else if protocols.contains name then some (.bool true) else none
  | "_is_runtime_protocol" =>
    if protocols.contains name then some (.bool (name ≠ "Protocol")) else none
  | "__orig_bases__" => (originalBases? name).map .tuple
  | _ => none

/-- What the first class of those of a class holds that holds something under a name, if it is
neither a function nor a part of its values. -/
def heldIn? (name member : String) : Option Value :=
  ((line name).findSome? fun holder =>
    match value? holder member, find? holder with
    | some value, _ => some (some value)
    | none, some entry =>
      let words := Text.words entry.members
      if words.contains ("-" ++ member) then some (some .nothing)
      else if words.contains member then some none else none
    | none, none => none).join

end Class

end TypeHint

end CallPlan
