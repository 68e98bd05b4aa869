import CallPlan.TypeHint.Class

/-!
# CallPlan.TypeHint.Arity

How many arguments functions and methods take.

* A method takes a number of arguments besides the value that it is a method of. Classes that have a
  method of a name mostly agree on it (`methods`); those that do not are named.
* Methods take arguments by position, but for a few that also know names (`namedMethods`).
* Functions that know names for their arguments are listed with them (`functions`).
-/

namespace CallPlan

namespace TypeHint

namespace Arity

/-- Methods by the least and the most arguments that they take; a class before the name tells that
it is an exception. -/
def methods : List (Nat × Nat × String) :=
  [(0, 0, "IO.close IO.fileno IO.flush IO.isatty IO.readable IO.seekable IO.tell IO.writable
      IO.__enter__ TextIO.__enter__ BinaryIO.__enter__ as_integer_ratio bit_count bit_length
      capitalize casefold clear close conjugate copy elements float.hex is_integer isalnum
      isalpha isascii isdecimal isdigit isidentifier islower isnumeric isprintable isspace
      istitle isupper items keys lower set.pop deque.pop popitem popleft release reverse sort
      swapcase title tolist toreadonly total upper values mro _asdict __abs__ __alloc__ __bool__
      __bytes__ __ceil__ __complex__ __copy__ __del__ __dir__ __enter__ __float__ __floor__
      __getnewargs__ __getstate__ __hash__ __index__ __int__ __invert__ __iter__ __len__
      __length_hint__ __neg__ __next__ __pos__ __reduce__ __repr__ __reversed__ __sizeof__
      __str__ __trunc__ __subclasses__"),
    (0, 1, "IO.read IO.readline IO.readlines IO.truncate expandtabs lstrip most_common new_child
      bytearray.pop list.pop UserList.pop OrderedDict.popitem rotate rstrip splitlines strip
      subtract tobytes update list.__init__ dict.__init__ set.__init__ OrderedDict.__init__
      Counter.__init__ UserDict.__init__ UserList.__init__ __round__"),
    (0, 2, "decode encode hex rsplit split to_bytes deque.__init__"),
    (1, 1, "IO.write IO.writelines BinaryIO.write __deepcopy__ __mro_entries__ add add_note
      append appendleft count deleter discard extend extendleft format_map fromhex getter
      range.index indices isdisjoint issubset issuperset join partition remove removeprefix
      removesuffix rpartition send setter symmetric_difference symmetric_difference_update
      translate with_traceback zfill copy_with _make __add__ __and__ __class_getitem__
      __contains__ __delattr__ __delete__ __delitem__ __divmod__ __eq__ __floordiv__ __format__
      __ge__ __getattribute__ __getitem__ __gt__ __iadd__ __iand__ __imul__ __instancecheck__
      __ior__ __isub__ __ixor__ __le__ __lshift__ __lt__ __missing__ __mod__ __mul__ __ne__
      __or__ __radd__ __rand__ __rdivmod__ __reduce_ex__ __rfloordiv__ __rlshift__ __rmod__
      __rmul__ __ror__ __rrshift__ __rshift__ __rsub__ __rtruediv__ __rxor__ __setstate__
      __sub__ __subclasscheck__ __truediv__ __xor__"),
    (1, 2, "IO.seek cast center from_bytes fromkeys get ljust move_to_end pop rjust setdefault
      bytes.translate bytearray.translate __get__ __pow__ __rpow__"),
    (1, 3, "str.count bytes.count bytearray.count UserString.count endswith find index
      str.maketrans rfind rindex startswith throw"),
    (2, 2, "insert bytes.maketrans bytearray.maketrans __set__ __set_name__ __setattr__
      __setitem__"),
    (2, 3, "replace"), (3, 3, "IO.__exit__"), (0, 1000, "set.update")]

/-- The methods that know names for their arguments; a class before the name tells that those of
others do not. -/
def namedMethods : List String :=
  Text.words "decode encode hex rsplit split splitlines expandtabs format sort to_bytes from_bytes
    bytes.translate bytearray.translate update OrderedDict.move_to_end OrderedDict.popitem
    OrderedDict.setdefault OrderedDict.fromkeys tobytes copy_with _replace _make __init__ __new__
    __call__ __init_subclass__ __exit__ __prepare__"

/-- The functions that know names for their arguments, with the names: an argument that may be left
out has an equals sign after its name, and one without a name has a dash in its place. -/
def functions : List (String × String) :=
  [("typing.abstractmethod", "funcobj"), ("typing._idfunc", "- -"),
    ("typing._is_param_expr", "arg"), ("typing._type_repr", "obj"),
    ("typing._is_unpacked_typevartuple", "x"), ("typing._is_typevar_like", "x"),
    ("typing._is_dunder", "attr"), ("typing.runtime_checkable", "cls"), ("typing.cast", "typ val"),
    ("typing.assert_type", "- -"),
    ("typing.get_type_hints", "obj globalns= localns= include_extras="),
    ("typing._strip_annotations", "t"), ("typing.get_origin", "tp"), ("typing.get_args", "tp"),
    ("typing.is_typeddict", "tp"), ("typing.assert_never", "-"), ("typing.no_type_check", "arg"),
    ("typing.no_type_check_decorator", "decorator"), ("typing.overload", "func"),
    ("typing.get_overloads", "func"), ("typing.clear_overloads", ""), ("typing.final", "f"),
    ("typing.reveal_type", "-"), ("contextlib.wraps", "wrapped assigned= updated="),
    ("contextlib.contextmanager", "func"), ("contextlib.asynccontextmanager", "func"),
    ("functools.get_cache_token", ""), ("functools.recursive_repr", "fillvalue="),
    ("functools.update_wrapper", "wrapper wrapped assigned= updated="),
    ("functools.wraps", "wrapped assigned= updated="), ("functools.total_ordering", "cls"),
    ("functools.lru_cache", "maxsize= typed="), ("functools.cache", "-"),
    ("functools.singledispatch", "func"), ("functools.cmp_to_key", "mycmp"),
    ("re.match", "pattern string flags="), ("re.fullmatch", "pattern string flags="),
    ("re.search", "pattern string flags="), ("re.sub", "pattern repl string count= flags="),
    ("re.subn", "pattern repl string count= flags="),
    ("re.split", "pattern string maxsplit= flags="), ("re.findall", "pattern string flags="),
    ("re.finditer", "pattern string flags="), ("re.compile", "pattern flags="), ("re.purge", ""),
    ("re.template", "pattern flags="), ("re.escape", "pattern"),
    ("types.new_class", "name bases= kwds= exec_body="), ("types.resolve_bases", "bases"),
    ("types.prepare_class", "name bases= kwds="), ("types.coroutine", "func"),
    ("warnings.filterwarnings", "action message= category= module= lineno= append="),
    ("warnings.simplefilter", "action category= lineno= append="), ("warnings.resetwarnings", ""),
    ("warnings.warn", "message category= stacklevel= source=")]

/-- The least and the most arguments that a method of a class takes, if that is known. -/
def ofMethod? (type name : String) : Option (Nat × Nat) :=
  let listed (name : String) : Option (Nat × Nat) :=
    (methods.find? fun (_, _, names) => (Text.words names).contains name).map
      fun (least, most, _) => (least, most)
  listed (type ++ "." ++ name) <|> listed name

/-- Whether a method of a class takes a number of arguments, some of them perhaps under names. -/
def suits (type name : String) (count : Nat) (hasNames : Bool) : Bool :=
  if hasNames then
    namedMethods.contains name || namedMethods.contains (type ++ "." ++ name) ||
      (Class.holder? type name).all fun holder => Class.memberKind holder name = .function
  else (ofMethod? type name).all fun (least, most) => least ≤ count && count ≤ most

/-- The names of the arguments of a function, and how many are needed, if they are known. -/
def ofFunction? (name : String) : Option (List String × Nat) :=
  (List.lookup name functions).map fun text =>
    let words := Text.words text
    (words.map fun word =>
        if word = "-" then "" else if word.endsWith "=" then (word.dropEnd 1).toString else word,
      (words.filter (!·.endsWith "=")).length)

end Arity

end TypeHint

end CallPlan
