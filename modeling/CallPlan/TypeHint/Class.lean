import CallPlan.Text.Blank

/-!
# CallPlan.TypeHint.Class

The classes that are there from the start: where they come from, their bases, and what they hold.

* The classes of a class are itself, its bases, their bases and so on, each before its own bases and
  in the order of the bases (`merged`). What a class holds under a name is held by the first of them
  that has it.
* A class may also count as one of another because of what it holds, or because it is listed as one.
-/

namespace CallPlan

namespace TypeHint

/-- A class that is there from the start. -/
structure ClassEntry where
  name : String
  home : String
  bases : List String
  /-- Whether it has no values of its own. -/
  isAbstract : Bool
  /-- What it holds, with a space between two names; a name after a minus sign is withdrawn. -/
  members : String

namespace Class

/-- The classes that are there from the start. -/
def table : List ClassEntry :=
  [⟨"ArithmeticError", "builtins", ["Exception"], false, "__init__"⟩,
    ⟨"AssertionError", "builtins", ["Exception"], false, "__init__"⟩,
    ⟨"AttributeError", "builtins", ["Exception"], false, "__init__ __str__ name obj"⟩,
    ⟨"BaseException", "builtins", ["object"], false,
      "__cause__ __context__ __delattr__ __getattribute__ __init__ __reduce__ __repr__
       __setattr__ __setstate__ __str__ __suppress_context__ __traceback__ add_note args
       with_traceback"⟩,
    ⟨"BaseExceptionGroup", "builtins", ["BaseException"], false,
      "__class_getitem__ __init__ __str__ derive exceptions message split subgroup"⟩,
    ⟨"BlockingIOError", "builtins", ["OSError"], false, "__init__"⟩,
    ⟨"BrokenPipeError", "builtins", ["ConnectionError"], false, "__init__"⟩,
    ⟨"BufferError", "builtins", ["Exception"], false, "__init__"⟩,
    ⟨"BytesWarning", "builtins", ["Warning"], false, "__init__"⟩,
    ⟨"ChildProcessError", "builtins", ["OSError"], false, "__init__"⟩,
    ⟨"ConnectionAbortedError", "builtins", ["ConnectionError"], false, "__init__"⟩,
    ⟨"ConnectionError", "builtins", ["OSError"], false, "__init__"⟩,
    ⟨"ConnectionRefusedError", "builtins", ["ConnectionError"], false, "__init__"⟩,
    ⟨"ConnectionResetError", "builtins", ["ConnectionError"], false, "__init__"⟩,
    ⟨"DeprecationWarning", "builtins", ["Warning"], false, "__init__"⟩,
    ⟨"EOFError", "builtins", ["Exception"], false, "__init__"⟩,
    ⟨"EncodingWarning", "builtins", ["Warning"], false, "__init__"⟩,
    ⟨"Exception", "builtins", ["BaseException"], false, "__init__"⟩,
    ⟨"ExceptionGroup", "builtins", ["BaseExceptionGroup", "Exception"], false, ""⟩,
    ⟨"FileExistsError", "builtins", ["OSError"], false, "__init__"⟩,
    ⟨"FileNotFoundError", "builtins", ["OSError"], false, "__init__"⟩,
    ⟨"FloatingPointError", "builtins", ["ArithmeticError"], false, "__init__"⟩,
    ⟨"FutureWarning", "builtins", ["Warning"], false, "__init__"⟩,
    ⟨"GeneratorExit", "builtins", ["BaseException"], false, "__init__"⟩,
    ⟨"ImportError", "builtins", ["Exception"], false, "__init__ __reduce__ __str__ msg name path"⟩,
    ⟨"ImportWarning", "builtins", ["Warning"], false, "__init__"⟩,
    ⟨"IndentationError", "builtins", ["SyntaxError"], false, "__init__"⟩,
    ⟨"IndexError", "builtins", ["LookupError"], false, "__init__"⟩,
    ⟨"InterruptedError", "builtins", ["OSError"], false, "__init__"⟩,
    ⟨"IsADirectoryError", "builtins", ["OSError"], false, "__init__"⟩,
    ⟨"KeyError", "builtins", ["LookupError"], false, "__init__ __str__"⟩,
    ⟨"KeyboardInterrupt", "builtins", ["BaseException"], false, "__init__"⟩,
    ⟨"LookupError", "builtins", ["Exception"], false, "__init__"⟩,
    ⟨"MemoryError", "builtins", ["Exception"], false, "__init__"⟩,
    ⟨"ModuleNotFoundError", "builtins", ["ImportError"], false, "__init__"⟩,
    ⟨"NameError", "builtins", ["Exception"], false, "__init__ __str__ name"⟩,
    ⟨"NoneType", "builtins", ["object"], false, "__bool__ __repr__"⟩,
    ⟨"NotADirectoryError", "builtins", ["OSError"], false, "__init__"⟩,
    ⟨"NotImplementedError", "builtins", ["RuntimeError"], false, "__init__"⟩,
    ⟨"NotImplementedType", "builtins", ["object"], false, "__bool__ __reduce__ __repr__"⟩,
    ⟨"OSError", "builtins", ["Exception"], false,
      "__init__ __reduce__ __str__ characters_written errno filename filename2 strerror"⟩,
    ⟨"OverflowError", "builtins", ["ArithmeticError"], false, "__init__"⟩,
    ⟨"PendingDeprecationWarning", "builtins", ["Warning"], false, "__init__"⟩,
    ⟨"PermissionError", "builtins", ["OSError"], false, "__init__"⟩,
    ⟨"ProcessLookupError", "builtins", ["OSError"], false, "__init__"⟩,
    ⟨"RecursionError", "builtins", ["RuntimeError"], false, "__init__"⟩,
    ⟨"ReferenceError", "builtins", ["Exception"], false, "__init__"⟩,
    ⟨"ResourceWarning", "builtins", ["Warning"], false, "__init__"⟩,
    ⟨"RuntimeError", "builtins", ["Exception"], false, "__init__"⟩,
    ⟨"RuntimeWarning", "builtins", ["Warning"], false, "__init__"⟩,
    ⟨"StopAsyncIteration", "builtins", ["Exception"], false, "__init__"⟩,
    ⟨"StopIteration", "builtins", ["Exception"], false, "__init__ value"⟩,
    ⟨"SyntaxError", "builtins", ["Exception"], false,
      "__init__ __str__ end_lineno end_offset filename lineno msg offset print_file_and_line text"⟩,
    ⟨"SyntaxWarning", "builtins", ["Warning"], false, "__init__"⟩,
    ⟨"SystemError", "builtins", ["Exception"], false, "__init__"⟩,
    ⟨"SystemExit", "builtins", ["BaseException"], false, "__init__ code"⟩,
    ⟨"TabError", "builtins", ["IndentationError"], false, "__init__"⟩,
    ⟨"TimeoutError", "builtins", ["OSError"], false, "__init__"⟩,
    ⟨"TypeError", "builtins", ["Exception"], false, "__init__"⟩,
    ⟨"UnboundLocalError", "builtins", ["NameError"], false, "__init__"⟩,
    ⟨"UnicodeDecodeError", "builtins", ["UnicodeError"], false,
      "__init__ __str__ encoding end object reason start"⟩,
    ⟨"UnicodeEncodeError", "builtins", ["UnicodeError"], false,
      "__init__ __str__ encoding end object reason start"⟩,
    ⟨"UnicodeError", "builtins", ["ValueError"], false, "__init__"⟩,
    ⟨"UnicodeTranslateError", "builtins", ["UnicodeError"], false,
      "__init__ __str__ encoding end object reason start"⟩,
    ⟨"UnicodeWarning", "builtins", ["Warning"], false, "__init__"⟩,
    ⟨"UserWarning", "builtins", ["Warning"], false, "__init__"⟩,
    ⟨"ValueError", "builtins", ["Exception"], false, "__init__"⟩,
    ⟨"Warning", "builtins", ["Exception"], false, "__init__"⟩,
    ⟨"ZeroDivisionError", "builtins", ["ArithmeticError"], false, "__init__"⟩,
    ⟨"async_generator", "builtins", ["object"], false,
      "__aiter__ __anext__ __class_getitem__ __del__ __getattribute__ __name__ __qualname__
       __repr__ __sizeof__ aclose ag_await ag_code ag_frame ag_running asend athrow"⟩,
    ⟨"bool", "builtins", ["int"], false,
      "__and__ __or__ __rand__ __repr__ __ror__ __rxor__ __xor__"⟩,
    ⟨"builtin_function_or_method", "builtins", ["object"], false,
      "__call__ __eq__ __ge__ __getattribute__ __gt__ __hash__ __le__ __lt__ __name__ __ne__
       __qualname__ __reduce__ __repr__ __self__"⟩,
    ⟨"bytearray", "builtins", ["object"], false,
      "__add__ __alloc__ __contains__ __delitem__ __eq__ __ge__ __getattribute__ __getitem__
       __gt__ -__hash__ __iadd__ __imul__ __init__ __iter__ __le__ __len__ __lt__ __mod__ __mul__
       __ne__ __reduce__ __reduce_ex__ __repr__ __rmod__ __rmul__ __setitem__ __sizeof__ __str__
       append capitalize center clear copy count decode endswith expandtabs extend find fromhex
       hex index insert isalnum isalpha isascii isdigit islower isspace istitle isupper join
       ljust lower lstrip maketrans partition pop remove removeprefix removesuffix replace
       reverse rfind rindex rjust rpartition rsplit rstrip split splitlines startswith strip
       swapcase title translate upper zfill"⟩,
    ⟨"bytearray_iterator", "builtins", ["object"], false,
      "__getattribute__ __iter__ __length_hint__ __next__ __reduce__ __setstate__"⟩,
    ⟨"bytes", "builtins", ["object"], false,
      "__add__ __bytes__ __contains__ __eq__ __ge__ __getattribute__ __getitem__ __getnewargs__
       __gt__ __hash__ __iter__ __le__ __len__ __lt__ __mod__ __mul__ __ne__ __repr__ __rmod__
       __rmul__ __str__ capitalize center count decode endswith expandtabs find fromhex hex index
       isalnum isalpha isascii isdigit islower isspace istitle isupper join ljust lower lstrip
       maketrans partition removeprefix removesuffix replace rfind rindex rjust rpartition rsplit
       rstrip split splitlines startswith strip swapcase title translate upper zfill"⟩,
    ⟨"bytes_iterator", "builtins", ["object"], false,
      "__getattribute__ __iter__ __length_hint__ __next__ __reduce__ __setstate__"⟩,
    ⟨"callable_iterator", "builtins", ["object"], false,
      "__getattribute__ __iter__ __next__ __reduce__"⟩,
    ⟨"cell", "builtins", ["object"], false,
      "__eq__ __ge__ __getattribute__ __gt__ -__hash__ __le__ __lt__ __ne__ __repr__
       cell_contents"⟩,
    ⟨"classmethod", "builtins", ["object"], false,
      "__func__ __get__ __init__ __isabstractmethod__ __repr__ __wrapped__"⟩,
    ⟨"classmethod_descriptor", "builtins", ["object"], false,
      "__call__ __get__ __getattribute__ __name__ __objclass__ __qualname__ __repr__"⟩,
    ⟨"code", "builtins", ["object"], false,
      "__eq__ __ge__ __getattribute__ __gt__ __hash__ __le__ __lt__ __ne__ __repr__ __sizeof__
       _co_code_adaptive _varname_from_oparg co_argcount co_cellvars co_code co_consts
       co_exceptiontable co_filename co_firstlineno co_flags co_freevars co_kwonlyargcount
       co_lines co_linetable co_lnotab co_name co_names co_nlocals co_positions
       co_posonlyargcount co_qualname co_stacksize co_varnames replace"⟩,
    ⟨"complex", "builtins", ["object"], false,
      "__abs__ __add__ __bool__ __complex__ __eq__ __format__ __ge__ __getattribute__
       __getnewargs__ __gt__ __hash__ __le__ __lt__ __mul__ __ne__ __neg__ __pos__ __pow__
       __radd__ __repr__ __rmul__ __rpow__ __rsub__ __rtruediv__ __sub__ __truediv__ conjugate
       imag real"⟩,
    ⟨"coroutine", "builtins", ["object"], false,
      "__await__ __del__ __getattribute__ __name__ __qualname__ __repr__ __sizeof__ close
       cr_await cr_code cr_frame cr_origin cr_running cr_suspended send throw"⟩,
    ⟨"dict", "builtins", ["object"], false,
      "__class_getitem__ __contains__ __delitem__ __eq__ __ge__ __getattribute__ __getitem__
       __gt__ -__hash__ __init__ __ior__ __iter__ __le__ __len__ __lt__ __ne__ __or__ __repr__
       __reversed__ __ror__ __setitem__ __sizeof__ clear copy fromkeys get items keys pop popitem
       setdefault update values"⟩,
    ⟨"dict_itemiterator", "builtins", ["object"], false,
      "__getattribute__ __iter__ __length_hint__ __next__ __reduce__"⟩,
    ⟨"dict_items", "builtins", ["object"], false,
      "__and__ __contains__ __eq__ __ge__ __getattribute__ __gt__ -__hash__ __iter__ __le__
       __len__ __lt__ __ne__ __or__ __rand__ __repr__ __reversed__ __ror__ __rsub__ __rxor__
       __sub__ __xor__ isdisjoint mapping"⟩,
    ⟨"dict_keyiterator", "builtins", ["object"], false,
      "__getattribute__ __iter__ __length_hint__ __next__ __reduce__"⟩,
    ⟨"dict_keys", "builtins", ["object"], false,
      "__and__ __contains__ __eq__ __ge__ __getattribute__ __gt__ -__hash__ __iter__ __le__
       __len__ __lt__ __ne__ __or__ __rand__ __repr__ __reversed__ __ror__ __rsub__ __rxor__
       __sub__ __xor__ isdisjoint mapping"⟩,
    ⟨"dict_reversekeyiterator", "builtins", ["object"], false,
      "__iter__ __length_hint__ __next__ __reduce__"⟩,
    ⟨"dict_valueiterator", "builtins", ["object"], false,
      "__getattribute__ __iter__ __length_hint__ __next__ __reduce__"⟩,
    ⟨"dict_values", "builtins", ["object"], false,
      "__getattribute__ __iter__ __len__ __repr__ __reversed__ mapping"⟩,
    ⟨"ellipsis", "builtins", ["object"], false, "__getattribute__ __reduce__ __repr__"⟩,
    ⟨"enumerate", "builtins", ["object"], false,
      "__class_getitem__ __getattribute__ __iter__ __next__ __reduce__"⟩,
    ⟨"filter", "builtins", ["object"], false, "__getattribute__ __iter__ __next__ __reduce__"⟩,
    ⟨"float", "builtins", ["object"], false,
      "__abs__ __add__ __bool__ __ceil__ __divmod__ __eq__ __float__ __floor__ __floordiv__
       __format__ __ge__ __getattribute__ __getformat__ __getnewargs__ __gt__ __hash__ __int__
       __le__ __lt__ __mod__ __mul__ __ne__ __neg__ __pos__ __pow__ __radd__ __rdivmod__ __repr__
       __rfloordiv__ __rmod__ __rmul__ __round__ __rpow__ __rsub__ __rtruediv__ __sub__
       __truediv__ __trunc__ as_integer_ratio conjugate fromhex hex imag is_integer real"⟩,
    ⟨"frame", "builtins", ["object"], false,
      "__delattr__ __getattribute__ __repr__ __setattr__ __sizeof__ clear f_back f_builtins
       f_code f_globals f_lasti f_lineno f_locals f_trace f_trace_lines f_trace_opcodes"⟩,
    ⟨"frozenset", "builtins", ["object"], false,
      "__and__ __class_getitem__ __contains__ __eq__ __ge__ __getattribute__ __gt__ __hash__
       __iter__ __le__ __len__ __lt__ __ne__ __or__ __rand__ __reduce__ __repr__ __ror__ __rsub__
       __rxor__ __sizeof__ __sub__ __xor__ copy difference intersection isdisjoint issubset
       issuperset symmetric_difference union"⟩,
    ⟨"function", "builtins", ["object"], false,
      "__builtins__ __call__ __closure__ __code__ __defaults__ __get__ __globals__ __kwdefaults__
       __name__ __qualname__ __repr__"⟩,
    ⟨"generator", "builtins", ["object"], false,
      "__del__ __getattribute__ __iter__ __name__ __next__ __qualname__ __repr__ __sizeof__ close
       gi_code gi_frame gi_running gi_suspended gi_yieldfrom send throw"⟩,
    ⟨"getset_descriptor", "builtins", ["object"], false,
      "__delete__ __get__ __getattribute__ __name__ __objclass__ __qualname__ __repr__ __set__"⟩,
    ⟨"int", "builtins", ["object"], false,
      "__abs__ __add__ __and__ __bool__ __ceil__ __divmod__ __eq__ __float__ __floor__
       __floordiv__ __format__ __ge__ __getattribute__ __getnewargs__ __gt__ __hash__ __index__
       __int__ __invert__ __le__ __lshift__ __lt__ __mod__ __mul__ __ne__ __neg__ __or__ __pos__
       __pow__ __radd__ __rand__ __rdivmod__ __repr__ __rfloordiv__ __rlshift__ __rmod__ __rmul__
       __ror__ __round__ __rpow__ __rrshift__ __rshift__ __rsub__ __rtruediv__ __rxor__
       __sizeof__ __sub__ __truediv__ __trunc__ __xor__ as_integer_ratio bit_count bit_length
       conjugate denominator from_bytes imag numerator real to_bytes"⟩,
    ⟨"list", "builtins", ["object"], false,
      "__add__ __class_getitem__ __contains__ __delitem__ __eq__ __ge__ __getattribute__
       __getitem__ __gt__ -__hash__ __iadd__ __imul__ __init__ __iter__ __le__ __len__ __lt__
       __mul__ __ne__ __repr__ __reversed__ __rmul__ __setitem__ __sizeof__ append clear copy
       count extend index insert pop remove reverse sort"⟩,
    ⟨"list_iterator", "builtins", ["object"], false,
      "__getattribute__ __iter__ __length_hint__ __next__ __reduce__ __setstate__"⟩,
    ⟨"list_reverseiterator", "builtins", ["object"], false,
      "__getattribute__ __iter__ __length_hint__ __next__ __reduce__ __setstate__"⟩,
    ⟨"map", "builtins", ["object"], false, "__getattribute__ __iter__ __next__ __reduce__"⟩,
    ⟨"mappingproxy", "builtins", ["object"], false,
      "__class_getitem__ __contains__ __eq__ __ge__ __getattribute__ __getitem__ __gt__ -__hash__
       __ior__ __iter__ __le__ __len__ __lt__ __ne__ __or__ __repr__ __reversed__ __ror__ __str__
       copy get items keys values"⟩,
    ⟨"member_descriptor", "builtins", ["object"], false,
      "__delete__ __get__ __getattribute__ __name__ __objclass__ __qualname__ __reduce__ __repr__
       __set__"⟩,
    ⟨"memoryview", "builtins", ["object"], false,
      "__delitem__ __enter__ __eq__ __exit__ __ge__ __getattribute__ __getitem__ __gt__ __hash__
       __iter__ __le__ __len__ __lt__ __ne__ __repr__ __setitem__ c_contiguous cast contiguous
       f_contiguous format hex itemsize nbytes ndim obj readonly release shape strides suboffsets
       tobytes tolist toreadonly"⟩,
    ⟨"method", "builtins", ["object"], false,
      "__call__ __delattr__ __eq__ __func__ __ge__ __getattribute__ __gt__ __hash__ __le__ __lt__
       __ne__ __reduce__ __repr__ __self__ __setattr__"⟩,
    ⟨"method-wrapper", "builtins", ["object"], false,
      "__call__ __eq__ __ge__ __getattribute__ __gt__ __hash__ __le__ __lt__ __name__ __ne__
       __objclass__ __qualname__ __reduce__ __repr__ __self__"⟩,
    ⟨"method_descriptor", "builtins", ["object"], false,
      "__call__ __get__ __getattribute__ __name__ __objclass__ __qualname__ __reduce__ __repr__"⟩,
    ⟨"module", "builtins", ["object"], false,
      "__delattr__ __dir__ __getattribute__ __init__ __repr__ __setattr__"⟩,
    ⟨"object", "builtins", [], false,
      "__class__ __delattr__ __dir__ __eq__ __format__ __ge__ __getattribute__ __getstate__
       __gt__ __hash__ __init__ __init_subclass__ __le__ __lt__ __ne__ __new__ __reduce__
       __reduce_ex__ __repr__ __setattr__ __sizeof__ __str__ __subclasshook__"⟩,
    ⟨"odict_iterator", "builtins", ["object"], false,
      "__getattribute__ __iter__ __next__ __reduce__"⟩,
    ⟨"odict_items", "builtins", ["dict_items"], false, "__reversed__"⟩,
    ⟨"odict_keys", "builtins", ["dict_keys"], false, "__reversed__"⟩,
    ⟨"odict_values", "builtins", ["dict_values"], false, "__reversed__"⟩,
    ⟨"property", "builtins", ["object"], false,
      "__delete__ __get__ __getattribute__ __init__ __isabstractmethod__ __set__ __set_name__
       deleter fdel fget fset getter setter"⟩,
    ⟨"range", "builtins", ["object"], false,
      "__bool__ __contains__ __eq__ __ge__ __getattribute__ __getitem__ __gt__ __hash__ __iter__
       __le__ __len__ __lt__ __ne__ __reduce__ __repr__ __reversed__ count index start step stop"⟩,
    ⟨"range_iterator", "builtins", ["object"], false,
      "__getattribute__ __iter__ __length_hint__ __next__ __reduce__ __setstate__"⟩,
    ⟨"reversed", "builtins", ["object"], false,
      "__getattribute__ __iter__ __length_hint__ __next__ __reduce__ __setstate__"⟩,
    ⟨"set", "builtins", ["object"], false,
      "__and__ __class_getitem__ __contains__ __eq__ __ge__ __getattribute__ __gt__ -__hash__
       __iand__ __init__ __ior__ __isub__ __iter__ __ixor__ __le__ __len__ __lt__ __ne__ __or__
       __rand__ __reduce__ __repr__ __ror__ __rsub__ __rxor__ __sizeof__ __sub__ __xor__ add
       clear copy difference difference_update discard intersection intersection_update
       isdisjoint issubset issuperset pop remove symmetric_difference symmetric_difference_update
       union update"⟩,
    ⟨"set_iterator", "builtins", ["object"], false,
      "__getattribute__ __iter__ __length_hint__ __next__ __reduce__"⟩,
    ⟨"slice", "builtins", ["object"], false,
      "__eq__ __ge__ __getattribute__ __gt__ -__hash__ __le__ __lt__ __ne__ __reduce__ __repr__
       indices start step stop"⟩,
    ⟨"staticmethod", "builtins", ["object"], false,
      "__call__ __func__ __get__ __init__ __isabstractmethod__ __repr__ __wrapped__"⟩,
    ⟨"str", "builtins", ["object"], false,
      "__add__ __contains__ __eq__ __format__ __ge__ __getattribute__ __getitem__ __getnewargs__
       __gt__ __hash__ __iter__ __le__ __len__ __lt__ __mod__ __mul__ __ne__ __repr__ __rmod__
       __rmul__ __sizeof__ __str__ capitalize casefold center count encode endswith expandtabs
       find format format_map index isalnum isalpha isascii isdecimal isdigit isidentifier
       islower isnumeric isprintable isspace istitle isupper join ljust lower lstrip maketrans
       partition removeprefix removesuffix replace rfind rindex rjust rpartition rsplit rstrip
       split splitlines startswith strip swapcase title translate upper zfill"⟩,
    ⟨"str_ascii_iterator", "builtins", ["object"], false,
      "__getattribute__ __iter__ __length_hint__ __next__ __reduce__ __setstate__"⟩,
    ⟨"super", "builtins", ["object"], false,
      "__get__ __getattribute__ __init__ __repr__ __self__ __self_class__ __thisclass__"⟩,
    ⟨"traceback", "builtins", ["object"], false,
      "__dir__ __getattribute__ tb_frame tb_lasti tb_lineno tb_next"⟩,
    ⟨"tuple", "builtins", ["object"], false,
      "__add__ __class_getitem__ __contains__ __eq__ __ge__ __getattribute__ __getitem__
       __getnewargs__ __gt__ __hash__ __iter__ __le__ __len__ __lt__ __mul__ __ne__ __repr__
       __rmul__ count index"⟩,
    ⟨"tuple_iterator", "builtins", ["object"], false,
      "__getattribute__ __iter__ __length_hint__ __next__ __reduce__ __setstate__"⟩,
    ⟨"type", "builtins", ["object"], false,
      "__base__ __bases__ __basicsize__ __call__ __delattr__ __dictoffset__ __dir__ __flags__
       __getattribute__ __init__ __instancecheck__ __itemsize__ __mro__ __name__ __or__
       __prepare__ __qualname__ __repr__ __ror__ __setattr__ __sizeof__ __subclasscheck__
       __subclasses__ __weakrefoffset__ mro"⟩,
    ⟨"wrapper_descriptor", "builtins", ["object"], false,
      "__call__ __get__ __getattribute__ __name__ __objclass__ __qualname__ __reduce__ __repr__"⟩,
    ⟨"zip", "builtins", ["object"], false,
      "__getattribute__ __iter__ __next__ __reduce__ __setstate__"⟩,
    ⟨"_deque_iterator", "_collections", ["object"], false,
      "__getattribute__ __iter__ __length_hint__ __next__ __reduce__"⟩,
    ⟨"_tuplegetter", "_collections", ["object"], false,
      "__delete__ __get__ __reduce__ __repr__ __set__"⟩,
    ⟨"ABC", "abc", ["object"], false, ""⟩,
    ⟨"ABCMeta", "abc", ["type"], false,
      "__instancecheck__ __subclasscheck__ _abc_caches_clear _abc_registry_clear _dump_registry
       register"⟩,
    ⟨"ChainMap", "collections", ["MutableMapping"], false,
      "__bool__ __contains__ __copy__ __delitem__ __getitem__ __init__ __ior__ __iter__ __len__
       __missing__ __or__ __repr__ __ror__ __setitem__ clear copy fromkeys get new_child parents
       pop popitem"⟩,
    ⟨"Counter", "collections", ["dict"], false,
      "__add__ __and__ __delitem__ __eq__ __ge__ __gt__ -__hash__ __iadd__ __iand__ __init__
       __ior__ __isub__ __le__ __lt__ __missing__ __ne__ __neg__ __or__ __pos__ __reduce__
       __repr__ __sub__ _keep_positive copy elements fromkeys most_common subtract total update"⟩,
    ⟨"OrderedDict", "collections", ["dict"], false,
      "__delitem__ __eq__ __ge__ __gt__ -__hash__ __init__ __ior__ __iter__ __le__ __lt__ __ne__
       __or__ __reduce__ __repr__ __reversed__ __ror__ __setitem__ __sizeof__ clear copy fromkeys
       items keys move_to_end pop popitem setdefault update values"⟩,
    ⟨"UserDict", "collections", ["MutableMapping"], false,
      "__contains__ __copy__ __delitem__ __getitem__ __init__ __ior__ __iter__ __len__ __or__
       __repr__ __ror__ __setitem__ copy fromkeys"⟩,
    ⟨"UserList", "collections", ["MutableSequence"], false,
      "_UserList__cast __add__ __contains__ __copy__ __delitem__ __eq__ __ge__ __getitem__ __gt__
       -__hash__ __iadd__ __imul__ __init__ __le__ __len__ __lt__ __mul__ __radd__ __repr__
       __rmul__ __setitem__ append clear copy count extend index insert pop remove reverse sort"⟩,
    ⟨"UserString", "collections", ["Sequence"], false,
      "__add__ __complex__ __contains__ __eq__ __float__ __ge__ __getitem__ __getnewargs__ __gt__
       __hash__ __init__ __int__ __le__ __len__ __lt__ __mod__ __mul__ __radd__ __repr__ __rmod__
       __rmul__ __str__ capitalize casefold center count encode endswith expandtabs find format
       format_map index isalnum isalpha isascii isdecimal isdigit isidentifier islower isnumeric
       isprintable isspace istitle isupper join ljust lower lstrip maketrans partition
       removeprefix removesuffix replace rfind rindex rjust rpartition rsplit rstrip split
       splitlines startswith strip swapcase title translate upper zfill"⟩,
    ⟨"_Link", "collections", ["object"], false, "key next prev"⟩,
    ⟨"_OrderedDictItemsView", "collections", ["ItemsView"], false, "__reversed__"⟩,
    ⟨"_OrderedDictKeysView", "collections", ["KeysView"], false, "__reversed__"⟩,
    ⟨"_OrderedDictValuesView", "collections", ["ValuesView"], false, "__reversed__"⟩,
    ⟨"defaultdict", "collections", ["dict"], false,
      "__class_getitem__ __copy__ __getattribute__ __init__ __missing__ __or__ __reduce__
       __repr__ __ror__ copy default_factory"⟩,
    ⟨"deque", "collections", ["object"], false,
      "__add__ __class_getitem__ __contains__ __copy__ __delitem__ __eq__ __ge__ __getattribute__
       __getitem__ __gt__ -__hash__ __iadd__ __imul__ __init__ __iter__ __le__ __len__ __lt__
       __mul__ __ne__ __reduce__ __repr__ __reversed__ __rmul__ __setitem__ __sizeof__ append
       appendleft clear copy count extend extendleft index insert maxlen pop popleft remove
       reverse rotate"⟩,
    ⟨"AsyncGenerator", "collections.abc", ["AsyncIterator"], true,
      "__anext__ __subclasshook__ aclose asend athrow"⟩,
    ⟨"AsyncIterable", "collections.abc", ["object"], true,
      "__aiter__ __class_getitem__ __subclasshook__"⟩,
    ⟨"AsyncIterator", "collections.abc", ["AsyncIterable"], true,
      "__aiter__ __anext__ __subclasshook__"⟩,
    ⟨"Awaitable", "collections.abc", ["object"], true,
      "__await__ __class_getitem__ __subclasshook__"⟩,
    ⟨"ByteString", "collections.abc", ["Sequence"], true, ""⟩,
    ⟨"Callable", "collections.abc", ["object"], true,
      "__call__ __class_getitem__ __subclasshook__"⟩,
    ⟨"Collection", "collections.abc", ["Sized", "Iterable", "Container"], true,
      "__subclasshook__"⟩,
    ⟨"Container", "collections.abc", ["object"], true,
      "__class_getitem__ __contains__ __subclasshook__"⟩,
    ⟨"Coroutine", "collections.abc", ["Awaitable"], true, "__subclasshook__ close send throw"⟩,
    ⟨"Generator", "collections.abc", ["Iterator"], true,
      "__next__ __subclasshook__ close send throw"⟩,
    ⟨"Hashable", "collections.abc", ["object"], true, "__hash__ __subclasshook__"⟩,
    ⟨"ItemsView", "collections.abc", ["MappingView", "Set"], false,
      "__contains__ __iter__ _from_iterable"⟩,
    ⟨"Iterable", "collections.abc", ["object"], true,
      "__class_getitem__ __iter__ __subclasshook__"⟩,
    ⟨"Iterator", "collections.abc", ["Iterable"], true, "__iter__ __next__ __subclasshook__"⟩,
    ⟨"KeysView", "collections.abc", ["MappingView", "Set"], false,
      "__contains__ __iter__ _from_iterable"⟩,
    ⟨"Mapping", "collections.abc", ["Collection"], true,
      "__contains__ __eq__ __getitem__ -__hash__ -__reversed__ get items keys values"⟩,
    ⟨"MappingView", "collections.abc", ["Sized"], false,
      "__class_getitem__ __init__ __len__ __repr__ _mapping"⟩,
    ⟨"MutableMapping", "collections.abc", ["Mapping"], true,
      "_MutableMapping__marker __delitem__ __setitem__ clear pop popitem setdefault update"⟩,
    ⟨"MutableSequence", "collections.abc", ["Sequence"], true,
      "__delitem__ __iadd__ __setitem__ append clear extend insert pop remove reverse"⟩,
    ⟨"MutableSet", "collections.abc", ["Set"], true,
      "__iand__ __ior__ __isub__ __ixor__ add clear discard pop remove"⟩,
    ⟨"Reversible", "collections.abc", ["Iterable"], true, "__reversed__ __subclasshook__"⟩,
    ⟨"Sequence", "collections.abc", ["Reversible", "Collection"], true,
      "__contains__ __getitem__ __iter__ __reversed__ count index"⟩,
    ⟨"Set", "collections.abc", ["Collection"], true,
      "__and__ __eq__ __ge__ __gt__ -__hash__ __le__ __lt__ __or__ __rand__ __ror__ __rsub__
       __rxor__ __sub__ __xor__ _from_iterable _hash isdisjoint"⟩,
    ⟨"Sized", "collections.abc", ["object"], true, "__len__ __subclasshook__"⟩,
    ⟨"ValuesView", "collections.abc", ["MappingView", "Collection"], false,
      "__contains__ __iter__"⟩,
    ⟨"abc._CallableGenericAlias", "collections.abc", ["GenericAlias"], false,
      "__getitem__ __reduce__ __repr__"⟩,
    ⟨"AbstractAsyncContextManager", "contextlib", ["ABC"], true,
      "__aenter__ __aexit__ __class_getitem__ __subclasshook__"⟩,
    ⟨"AbstractContextManager", "contextlib", ["ABC"], true,
      "__class_getitem__ __enter__ __exit__ __subclasshook__"⟩,
    ⟨"AsyncContextDecorator", "contextlib", ["object"], false, "__call__ _recreate_cm"⟩,
    ⟨"AsyncExitStack", "contextlib", ["_BaseExitStack", "AbstractAsyncContextManager"], false,
      "__aenter__ __aexit__ _create_async_cb_wrapper _create_async_exit_wrapper
       _push_async_cm_exit aclose enter_async_context push_async_callback push_async_exit"⟩,
    ⟨"ContextDecorator", "contextlib", ["object"], false, "__call__ _recreate_cm"⟩,
    ⟨"ExitStack", "contextlib", ["_BaseExitStack", "AbstractContextManager"], false,
      "__enter__ __exit__ close"⟩,
    ⟨"_AsyncGeneratorContextManager", "contextlib", ["_GeneratorContextManagerBase",
      "AbstractAsyncContextManager", "AsyncContextDecorator"], false,
      "__aenter__ __aexit__"⟩,
    ⟨"_BaseExitStack", "contextlib", ["object"], false,
      "__init__ _create_cb_wrapper _create_exit_wrapper _push_cm_exit _push_exit_callback
       callback enter_context pop_all push"⟩,
    ⟨"_GeneratorContextManager", "contextlib", ["_GeneratorContextManagerBase",
      "AbstractContextManager", "ContextDecorator"], false,
      "__enter__ __exit__"⟩,
    ⟨"_GeneratorContextManagerBase", "contextlib", ["object"], false, "__init__ _recreate_cm"⟩,
    ⟨"_RedirectStream", "contextlib", ["AbstractContextManager"], false,
      "__enter__ __exit__ __init__ _stream"⟩,
    ⟨"aclosing", "contextlib", ["AbstractAsyncContextManager"], false,
      "__aenter__ __aexit__ __init__"⟩,
    ⟨"chdir", "contextlib", ["AbstractContextManager"], false, "__enter__ __exit__ __init__"⟩,
    ⟨"closing", "contextlib", ["AbstractContextManager"], false, "__enter__ __exit__ __init__"⟩,
    ⟨"nullcontext", "contextlib", ["AbstractContextManager", "AbstractAsyncContextManager"], false,
      "__aenter__ __aexit__ __enter__ __exit__ __init__"⟩,
    ⟨"redirect_stderr", "contextlib", ["_RedirectStream"], false, "_stream"⟩,
    ⟨"redirect_stdout", "contextlib", ["_RedirectStream"], false, "_stream"⟩,
    ⟨"suppress", "contextlib", ["AbstractContextManager"], false, "__enter__ __exit__ __init__"⟩,
    ⟨"CacheInfo", "functools", ["tuple"], false,
      "__getnewargs__ __repr__ _asdict _field_defaults _fields _make _replace currsize hits
       maxsize misses"⟩,
    ⟨"_HashedSeq", "functools", ["list"], false, "__hash__ __init__ hashvalue"⟩,
    ⟨"_lru_cache_wrapper", "functools", ["object"], false,
      "__call__ __copy__ __deepcopy__ __get__ __reduce__ cache_clear cache_info"⟩,
    ⟨"cached_property", "functools", ["object"], false,
      "__class_getitem__ __get__ __init__ __set_name__"⟩,
    ⟨"partial", "functools", ["object"], false,
      "__call__ __class_getitem__ __delattr__ __getattribute__ __reduce__ __repr__ __setattr__
       __setstate__ __vectorcalloffset__ args func keywords"⟩,
    ⟨"partialmethod", "functools", ["object"], false,
      "__class_getitem__ __get__ __init__ __isabstractmethod__ __repr__ _make_unbound_method"⟩,
    ⟨"singledispatchmethod", "functools", ["object"], false,
      "__get__ __init__ __isabstractmethod__ register"⟩,
    ⟨"chain", "itertools", ["object"], false,
      "__class_getitem__ __getattribute__ __iter__ __next__ __reduce__ __setstate__ from_iterable"⟩,
    ⟨"repeat", "itertools", ["object"], false,
      "__getattribute__ __iter__ __length_hint__ __next__ __reduce__ __repr__"⟩,
    ⟨"starmap", "itertools", ["object"], false, "__getattribute__ __iter__ __next__ __reduce__"⟩,
    ⟨"attrgetter", "operator", ["object"], false,
      "__call__ __getattribute__ __reduce__ __repr__ __vectorcalloffset__"⟩,
    ⟨"itemgetter", "operator", ["object"], false,
      "__call__ __getattribute__ __reduce__ __repr__ __vectorcalloffset__"⟩,
    ⟨"methodcaller", "operator", ["object"], false,
      "__call__ __getattribute__ __reduce__ __repr__"⟩,
    ⟨"Match", "re", ["object"], false,
      "__class_getitem__ __copy__ __deepcopy__ __getitem__ __repr__ end endpos expand group
       groupdict groups lastgroup lastindex pos re regs span start string"⟩,
    ⟨"Pattern", "re", ["object"], false,
      "__class_getitem__ __copy__ __deepcopy__ __eq__ __ge__ __gt__ __hash__ __le__ __lt__ __ne__
       __repr__ findall finditer flags fullmatch groupindex groups match pattern scanner search
       split sub subn"⟩,
    ⟨"Scanner", "re", ["object"], false, "__init__ scan"⟩,
    ⟨"error", "re", ["Exception"], false, "__init__"⟩,
    ⟨"flags", "sys", ["tuple"], false,
      "__reduce__ __repr__ bytes_warning debug dev_mode dont_write_bytecode hash_randomization
       ignore_environment inspect int_max_str_digits interactive isolated n_fields
       n_sequence_fields n_unnamed_fields no_site no_user_site optimize quiet safe_path utf8_mode
       verbose warn_default_encoding"⟩,
    ⟨"float_info", "sys", ["tuple"], false,
      "__reduce__ __repr__ dig epsilon mant_dig max max_10_exp max_exp min min_10_exp min_exp
       n_fields n_sequence_fields n_unnamed_fields radix rounds"⟩,
    ⟨"version_info", "sys", ["tuple"], false,
      "__reduce__ __repr__ major micro minor n_fields n_sequence_fields n_unnamed_fields
       releaselevel serial"⟩,
    ⟨"DynamicClassAttribute", "types", ["object"], false,
      "__delete__ __get__ __init__ __set__ deleter getter setter"⟩,
    ⟨"GenericAlias", "types", ["object"], false,
      "__args__ __call__ __dir__ __eq__ __ge__ __getattribute__ __getitem__ __gt__ __hash__
       __instancecheck__ __iter__ __le__ __lt__ __mro_entries__ __ne__ __or__ __origin__
       __reduce__ __repr__ __ror__ __subclasscheck__ __typing_unpacked_tuple_args__ __unpacked__"⟩,
    ⟨"SimpleNamespace", "types", ["object"], false,
      "__delattr__ __eq__ __ge__ __getattribute__ __gt__ -__hash__ __init__ __le__ __lt__ __ne__
       __reduce__ __repr__ __setattr__"⟩,
    ⟨"UnionType", "types", ["object"], false,
      "__args__ __eq__ __ge__ __getattribute__ __getitem__ __gt__ __hash__ __le__ __lt__ __ne__
       __or__ __repr__ __ror__"⟩,
    ⟨"_GeneratorWrapper", "types", ["object"], false,
      "__await__ __init__ __iter__ __next__ close cr_await cr_code cr_frame cr_running gi_code
       gi_frame gi_running gi_yieldfrom send throw"⟩,
    ⟨"Annotated", "typing", ["object"], false,
      "__class_getitem__ __init_subclass__ _class_getitem_inner"⟩,
    ⟨"Any", "typing", ["object"], false, ""⟩,
    ⟨"BinaryIO", "typing", ["IO"], false, "__enter__ write"⟩,
    ⟨"ForwardRef", "typing", ["_Final"], false,
      "__eq__ __forward_arg__ __forward_code__ __forward_evaluated__ __forward_is_argument__
       __forward_is_class__ __forward_module__ __forward_value__ __hash__ __init__ __or__
       __repr__ __ror__ _evaluate"⟩,
    ⟨"Generic", "typing", ["object"], false, "__class_getitem__ __init_subclass__"⟩,
    ⟨"IO", "typing", ["Generic"], false,
      "__enter__ __exit__ close closed fileno flush isatty mode name read readable readline
       readlines seek seekable tell truncate writable write writelines"⟩,
    ⟨"NamedTuple", "typing", ["object"], false, ""⟩,
    ⟨"NamedTupleMeta", "typing", ["type"], false, ""⟩,
    ⟨"NewType", "typing", ["object"], false,
      "__call__ __init__ __mro_entries__ __or__ __reduce__ __repr__ __ror__"⟩,
    ⟨"ParamSpec", "typing", ["_Final", "_Immutable", "_BoundVarianceMixin",
      "_PickleUsingNameMixin"], false,
      "__init__ __typing_prepare_subst__ __typing_subst__ args kwargs"⟩,
    ⟨"ParamSpecArgs", "typing", ["_Final", "_Immutable"], false,
      "__eq__ -__hash__ __init__ __repr__"⟩,
    ⟨"ParamSpecKwargs", "typing", ["_Final", "_Immutable"], false,
      "__eq__ -__hash__ __init__ __repr__"⟩,
    ⟨"Protocol", "typing", ["Generic"], false, "__init_subclass__ _is_runtime_protocol"⟩,
    ⟨"SupportsAbs", "typing", ["Protocol"], true,
      "__abs__ __init__ __subclasshook__ _is_runtime_protocol"⟩,
    ⟨"SupportsBytes", "typing", ["Protocol"], true,
      "__bytes__ __init__ __subclasshook__ _is_runtime_protocol"⟩,
    ⟨"SupportsComplex", "typing", ["Protocol"], true,
      "__complex__ __init__ __subclasshook__ _is_runtime_protocol"⟩,
    ⟨"SupportsFloat", "typing", ["Protocol"], true,
      "__float__ __init__ __subclasshook__ _is_runtime_protocol"⟩,
    ⟨"SupportsIndex", "typing", ["Protocol"], true,
      "__index__ __init__ __subclasshook__ _is_runtime_protocol"⟩,
    ⟨"SupportsInt", "typing", ["Protocol"], true,
      "__init__ __int__ __subclasshook__ _is_runtime_protocol"⟩,
    ⟨"SupportsRound", "typing", ["Protocol"], true,
      "__init__ __round__ __subclasshook__ _is_runtime_protocol"⟩,
    ⟨"TextIO", "typing", ["IO"], false,
      "__enter__ buffer encoding errors line_buffering newlines"⟩,
    ⟨"TypeVar", "typing", ["_Final", "_Immutable", "_BoundVarianceMixin",
      "_PickleUsingNameMixin"], false,
      "__init__ __typing_subst__"⟩,
    ⟨"TypeVarTuple", "typing", ["_Final", "_Immutable", "_PickleUsingNameMixin"], false,
      "__init__ __iter__ __repr__ __typing_prepare_subst__ __typing_subst__"⟩,
    ⟨"TypedDict", "typing", ["object"], false, ""⟩,
    ⟨"_AnnotatedAlias", "typing", ["_NotIterable", "_GenericAlias"], false,
      "__eq__ __getattr__ __hash__ __init__ __reduce__ __repr__ copy_with"⟩,
    ⟨"_AnyMeta", "typing", ["type"], false, "__instancecheck__ __repr__"⟩,
    ⟨"_BaseGenericAlias", "typing", ["_Final"], false,
      "__call__ __dir__ __getattr__ __init__ __instancecheck__ __mro_entries__ __setattr__
       __subclasscheck__"⟩,
    ⟨"_BoundVarianceMixin", "typing", ["object"], false, "__init__ __or__ __repr__ __ror__"⟩,
    ⟨"_CallableGenericAlias", "typing", ["_NotIterable", "_GenericAlias"], false,
      "__reduce__ __repr__"⟩,
    ⟨"_CallableType", "typing", ["_SpecialGenericAlias"], false,
      "__getitem__ __getitem_inner__ copy_with"⟩,
    ⟨"_ConcatenateGenericAlias", "typing", ["_GenericAlias"], false, "copy_with"⟩,
    ⟨"_DeprecatedType", "typing", ["type"], false, "__getattribute__"⟩,
    ⟨"_Final", "typing", ["object"], false, "__init_subclass__"⟩,
    ⟨"_GenericAlias", "typing", ["_BaseGenericAlias"], false,
      "__eq__ __getitem__ __hash__ __init__ __iter__ __mro_entries__ __or__ __reduce__ __repr__
       __ror__ _determine_new_args _make_substitution copy_with"⟩,
    ⟨"_Immutable", "typing", ["object"], false, "__copy__ __deepcopy__"⟩,
    ⟨"_LiteralGenericAlias", "typing", ["_GenericAlias"], false, "__eq__ __hash__"⟩,
    ⟨"_LiteralSpecialForm", "typing", ["_SpecialForm"], false, "__getitem__"⟩,
    ⟨"_NotIterable", "typing", ["object"], false, "-__iter__"⟩,
    ⟨"_PickleUsingNameMixin", "typing", ["object"], false, "__reduce__"⟩,
    ⟨"_ProtocolMeta", "typing", ["ABCMeta"], false, "__instancecheck__"⟩,
    ⟨"_SpecialForm", "typing", ["_Final", "_NotIterable"], false,
      "__call__ __getattr__ __getitem__ __init__ __instancecheck__ __mro_entries__ __or__
       __reduce__ __repr__ __ror__ __subclasscheck__ _getitem _name"⟩,
    ⟨"_SpecialGenericAlias", "typing", ["_NotIterable", "_BaseGenericAlias"], false,
      "__getitem__ __init__ __or__ __reduce__ __repr__ __ror__ __subclasscheck__ copy_with"⟩,
    ⟨"_TupleType", "typing", ["_SpecialGenericAlias"], false, "__getitem__"⟩,
    ⟨"_TypedDictMeta", "typing", ["type"], false, "__call__ __instancecheck__ __subclasscheck__"⟩,
    ⟨"_TypingEllipsis", "typing", ["object"], false, ""⟩,
    ⟨"_UnionGenericAlias", "typing", ["_NotIterable", "_GenericAlias"], false,
      "__eq__ __hash__ __instancecheck__ __reduce__ __repr__ __subclasscheck__ copy_with"⟩,
    ⟨"_UnpackGenericAlias", "typing", ["_GenericAlias"], false,
      "__getitem__ __repr__ __typing_is_unpacked_typevartuple__ __typing_unpacked_tuple_args__"⟩,
    ⟨"io", "typing", ["object"], false, "BinaryIO IO TextIO __all__"⟩,
    ⟨"re", "typing", ["object"], false, "Match Pattern __all__"⟩,
    ⟨"WarningMessage", "warnings", ["object"], false, "_WARNING_DETAILS __init__ __str__"⟩,
    ⟨"_OptionError", "warnings", ["Exception"], false, ""⟩,
    ⟨"catch_warnings", "warnings", ["object"], false, "__enter__ __exit__ __init__ __repr__"⟩]

/-- The class of a name. -/
def find? (name : String) : Option ClassEntry := table.find? (·.name = name)

/-! ## The order of classes -/

/-- The first head of some lists that stands in none of their tails. -/
def candidate? (lists : List (List String)) : Option String :=
  lists.findSome? fun
    | [] => none
    | head :: _ => if lists.any (fun list => list.tail.contains head) then none else some head

/-- Lists merged so that the order of each is kept; a step of fuel for each item. -/
def merged : (fuel : Nat) → List (List String) → Option (List String)
  | 0, _ => none
  | fuel + 1, lists =>
    let lists := lists.filter (!·.isEmpty)
    if lists.isEmpty then some []
    else do
      let head ← candidate? lists
      let rest ← merged fuel <| lists.map fun list =>
        if list.head? = some head then list.tail else list
      return head :: rest

/-- How deep classes have bases at most. -/
def depthLimit : Nat := 12

/-- A class and those that it is one of, in order. -/
def lineFrom : (fuel : Nat) → String → List String
  | 0, name => [name]
  | fuel + 1, name =>
    match find? name with
    | none => [name]
    | some entry =>
      let lines := entry.bases.map (lineFrom fuel)
      name :: (merged 200 (lines ++ [entry.bases])).getD []

/-- A class and those that it is one of, in order. -/
def line (name : String) : List String := lineFrom depthLimit name

/-! ## What classes hold -/

/-- The first class of those of a class that holds something under a name. -/
def holder? (name member : String) : Option String := do
  let holder ← (line name).find? fun name =>
    (find? name).any fun entry =>
      let words := Text.words entry.members
      words.contains member || words.contains ("-" ++ member)
  let entry ← find? holder
  if (Text.words entry.members).contains member then return holder else none

/-- Whether a class holds something under a name. -/
def holds (name member : String) : Bool := (holder? name member).isSome

/-- Whether a class takes any arguments. -/
def isGeneric (name : String) : Bool := holds name "__class_getitem__"

/-! ## Kinds of members -/

/-- What a class holds under a name. -/
inductive MemberKind where
  /-- What an operator does, or a function that every class may stand for. -/
  | slot
  | method
  /-- A method of the class itself. -/
  | classMethod
  /-- A function that is written in the language itself. -/
  | function
  /-- A part of each value that is worked out when it is asked for. -/
  | derivedPart
  /-- A part of each value. -/
  | part
  /-- A part of each value that a function of the language itself works out. -/
  | property
  deriving DecidableEq, Inhabited

/-- The classes outside of the innermost module that are not written in the language itself. -/
def nativeTypes : String :=
  "deque defaultdict OrderedDict _deque_iterator _tuplegetter _lru_cache_wrapper partial chain
   repeat starmap attrgetter itemgetter methodcaller Match Pattern GenericAlias SimpleNamespace
   UnionType"

/-- The names between double underscores that do not stand for operators. -/
def plainMethods : String :=
  "__alloc__ __bytes__ __ceil__ __complex__ __copy__ __deepcopy__ __dir__ __enter__ __exit__
   __floor__ __format__ __getnewargs__ __getstate__ __instancecheck__ __length_hint__ __missing__
   __mro_entries__ __reduce__ __reduce_ex__ __reversed__ __round__ __setstate__ __set_name__
   __sizeof__ __subclasscheck__ __subclasses__ __trunc__"

/-- The methods of classes. -/
def classMethods : String :=
  "__class_getitem__ __init_subclass__ __subclasshook__ __new__ __prepare__ __getformat__ from_bytes
   from_iterable fromhex fromkeys maketrans"

/-- The parts of values that are worked out. -/
def derivedParts : String :=
  "__bases__ __cause__ __class__ __code__ __context__ __defaults__ __kwdefaults__ __qualname__
   __name__ __traceback__ __isabstractmethod__ __typing_unpacked_tuple_args__ c_contiguous
   characters_written co_cellvars co_code co_freevars co_lnotab co_varnames contiguous denominator
   f_contiguous gi_suspended gi_frame gi_running gi_yieldfrom groupindex imag itemsize lastgroup
   lastindex mapping maxlen nbytes ndim numerator readonly real regs shape strides suboffsets"

/-- The other parts of values. -/
def parts : String :=
  "__args__ __base__ __basicsize__ __builtins__ __closure__ __dictoffset__ __flags__ __func__
   __globals__ __itemsize__ __mro__ __objclass__ __origin__ __self__ __self_class__
   __suppress_context__ __thisclass__ __unpacked__ __vectorcalloffset__ __weakrefoffset__
   __wrapped__ _getitem args co_argcount co_consts co_exceptiontable co_filename co_firstlineno
   co_flags co_kwonlyargcount co_linetable co_name co_names co_nlocals co_posonlyargcount
   co_qualname co_stacksize code default_factory encoding end end_lineno end_offset endpos
   exceptions fdel fget filename filename2 flags fset func gi_code keywords lineno msg name
   name_from obj object offset path pattern pos print_file_and_line reason start step stop strerror
   string text value"

/-- The methods of tuples whose items have names. -/
def itemMethods : String := "_make _replace _asdict"

/-- The parts of values that functions of the language itself work out. -/
def propertyNames : String :=
  "mode closed buffer encoding errors line_buffering newlines parents __isabstractmethod__
   gi_code gi_frame gi_running gi_yieldfrom cr_code cr_frame cr_running cr_await"

/-- Whether a class is not written in the language itself. -/
def isNative (name : String) : Bool :=
  (find? name).all fun entry =>
    entry.home = "builtins" || (Text.words nativeTypes).contains name

/-- What a class holds under a name that it holds. -/
def memberKind (holder name : String) : MemberKind :=
  let isIn (names : String) : Bool := (Text.words names).contains name
  let isSpecial := name.startsWith "__" && name.endsWith "__"
  if isIn classMethods then .classMethod
  else if isIn itemMethods then .function
  else if !isNative holder then
    if isIn propertyNames || (holder = "IO" && name = "name") ||
        (holder = "ParamSpec" && (name = "args" || name = "kwargs")) then .property
    else if holder = "ForwardRef" && name.startsWith "__forward_" then .part
    else .function
  else if holder = "BaseException" && name = "args" then .derivedPart
  else if holder = "complex" && (name = "real" || name = "imag") then .part
  else if isIn derivedParts then .derivedPart
  else if isIn parts then .part
  else if !isSpecial || isIn plainMethods then .method
  else if (name = "__getitem__" && (holder = "dict" || holder = "list")) ||
      (name = "__contains__" && ["dict", "set", "frozenset"].contains holder) then .method
  else .slot

/-- The class of a member, asked for through the class that holds it. -/
def memberClass (holder name : String) : String :=
  match memberKind holder name with
  | .slot => "wrapper_descriptor"
  | .method => "method_descriptor"
  | .classMethod => "builtin_function_or_method"
  | .function => "function"
  | .derivedPart => "getset_descriptor"
  | .part => "member_descriptor"
  | .property => "property"

/-- The class of a member, asked for through a value of a class. -/
def methodClass (type name : String) : String :=
  match (holder? type name).map (memberKind · name) with
  | some .slot => "method-wrapper"
  | some .function => "method"
  | none =>
    if (Text.words itemMethods).contains name then "method" else "builtin_function_or_method"
  | _ => "builtin_function_or_method"

/-- The class of a method of a class itself. -/
def boundClass (type name : String) : String :=
  match (holder? type name).map isNative with
  | some false => "method"
  | _ => "builtin_function_or_method"

/-- Whether a member of a class can be called. -/
def isCallable (holder name : String) : Bool :=
  match memberKind holder name with
  | .derivedPart | .part | .property => false
  | _ => true

/-! ## Classes that count as others -/

/-- The classes that those count as that hold certain members. -/
def byMembers : List (String × List String) :=
  [("Hashable", ["__hash__"]), ("Awaitable", ["__await__"]), ("AsyncIterable", ["__aiter__"]),
    ("AsyncIterator", ["__anext__", "__aiter__"]), ("Iterable", ["__iter__"]),
    ("Iterator", ["__next__", "__iter__"]), ("Reversible", ["__reversed__", "__iter__"]),
    ("Generator", ["__iter__", "__next__", "send", "throw", "close"]), ("Sized", ["__len__"]),
    ("Container", ["__contains__"]), ("Collection", ["__len__", "__iter__", "__contains__"]),
    ("Callable", ["__call__"]), ("SupportsInt", ["__int__"]), ("SupportsFloat", ["__float__"]),
    ("SupportsComplex", ["__complex__"]), ("SupportsBytes", ["__bytes__"]),
    ("SupportsIndex", ["__index__"]), ("SupportsAbs", ["__abs__"]),
    ("SupportsRound", ["__round__"]), ("AbstractContextManager", ["__enter__", "__exit__"])]

/-- The classes that are listed as others. -/
def listed : List (String × List String) :=
  [("Sequence", ["tuple", "str", "range", "memoryview", "bytes", "bytearray", "list", "deque"]),
    ("ByteString", ["bytes", "bytearray"]), ("MutableSequence", ["list", "bytearray", "deque"]),
    ("Set", ["frozenset", "set", "dict_keys", "dict_items"]), ("MutableSet", ["set"]),
    ("Mapping", ["mappingproxy", "dict"]), ("MutableMapping", ["dict"]),
    ("KeysView", ["dict_keys"]), ("ItemsView", ["dict_items"]), ("ValuesView", ["dict_values"]),
    ("MappingView", ["dict_keys", "dict_items", "dict_values"])]

/-- Whether a class is another one, or counts as it. -/
def isBelow (name other : String) : Bool :=
  let line := line name
  line.contains other ||
    ((List.lookup other byMembers).any fun members => members.all (holds name)) ||
    ((List.lookup other listed).any fun names => names.any line.contains)

end Class

end TypeHint

end CallPlan
