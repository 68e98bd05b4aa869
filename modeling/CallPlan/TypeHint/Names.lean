import CallPlan.Text.Blank
import CallPlan.TypeHint.Value

/-!
# CallPlan.TypeHint.Names

The names that a type hint may use, the members of modules, and the store in which an evaluation
begins.

* Names of classes that are followed by arguments in brackets come in two kinds: those that take any
  arguments, and those that take types, and as many as the class has parameters.
* Names that everything sees stand before those that are there without being given.
-/

namespace CallPlan

namespace TypeHint

/-- A module: its classes, with an equals sign where a class goes by another name there, its
functions and values that are told apart, and its lists and tables. -/
structure ModuleEntry where
  name : String
  types : String
  functions : String
  scraps : String

namespace Names

/-! ## Tables -/

/-- The classes among the names that are there without being given. -/
def plainTypes : String :=
  "bool memoryview bytearray bytes classmethod complex dict enumerate filter float frozenset
   property int list map object range reversed set slice staticmethod str super tuple type zip
   BaseException BaseExceptionGroup Exception GeneratorExit KeyboardInterrupt SystemExit
   ArithmeticError AssertionError AttributeError BufferError EOFError ImportError LookupError
   MemoryError NameError OSError ReferenceError RuntimeError StopAsyncIteration StopIteration
   SyntaxError SystemError TypeError ValueError Warning FloatingPointError OverflowError
   ZeroDivisionError BytesWarning DeprecationWarning EncodingWarning FutureWarning ImportWarning
   PendingDeprecationWarning ResourceWarning RuntimeWarning SyntaxWarning UnicodeWarning
   UserWarning BlockingIOError ChildProcessError ConnectionError FileExistsError
   FileNotFoundError InterruptedError IsADirectoryError NotADirectoryError PermissionError
   ProcessLookupError TimeoutError IndentationError IndexError KeyError ModuleNotFoundError
   NotImplementedError RecursionError UnboundLocalError UnicodeError BrokenPipeError
   ConnectionAbortedError ConnectionRefusedError ConnectionResetError TabError UnicodeDecodeError
   UnicodeEncodeError UnicodeTranslateError ExceptionGroup"

/-- The functions among them. -/
def plainFunctions : String :=
  "__build_class__ __import__ abs all any ascii bin breakpoint callable chr compile delattr dir
   divmod eval exec format getattr globals hasattr hash hex id input isinstance issubclass iter
   aiter len locals max min next anext oct ord pow print repr round setattr sorted sum vars open
   quit exit copyright credits license help"

/-- The classes among the names that everything in a type hint sees. -/
def formTypes : String :=
  "ABCMeta defaultdict GenericAlias _Final _Immutable _NotIterable _SpecialForm
   _LiteralSpecialForm _AnyMeta Any ForwardRef _PickleUsingNameMixin _BoundVarianceMixin TypeVar
   TypeVarTuple ParamSpecArgs ParamSpecKwargs ParamSpec _BaseGenericAlias _GenericAlias
   _SpecialGenericAlias _CallableGenericAlias _CallableType _TupleType _UnionGenericAlias
   _LiteralGenericAlias _ConcatenateGenericAlias _UnpackGenericAlias Generic _TypingEllipsis
   _ProtocolMeta Protocol _AnnotatedAlias Annotated SupportsInt SupportsFloat SupportsComplex
   SupportsBytes SupportsIndex SupportsAbs SupportsRound NamedTupleMeta _TypedDictMeta NewType IO
   BinaryIO TextIO _DeprecatedType io re"

/-- The functions among them. -/
def formFunctions : String :=
  "abstractmethod _idfunc _type_convert _type_check _is_param_expr
   _should_unflatten_callable_args _type_repr _collect_parameters _check_generic _unpack_args
   _deduplicate _deduplicate_unhashable _compare_args_orderless _remove_dups_flatten
   _flatten_literal_params _tp_cache _eval_type _is_unpacked_typevartuple _is_typevar_like
   _is_dunder _value_and_type_iter _get_protocol_attrs _is_callable_members_only
   _no_init_or_replace_init _caller _allow_reckless_class_checks runtime_checkable cast
   assert_type get_type_hints _strip_annotations get_origin get_args is_typeddict assert_never
   no_type_check no_type_check_decorator _overload_dummy overload get_overloads clear_overloads
   final _make_nmtuple NamedTuple _namedtuple_mro_entries TypedDict reveal_type
   dataclass_transform"

/-- The names of classes that take types as arguments: the class, how many it takes if not any
number, and whether calling the name makes a value of the class. -/
def aliases : List (String × String × Option Nat × Bool) :=
  [("Hashable", "Hashable", some 0, true), ("Awaitable", "Awaitable", some 1, true),
    ("Coroutine", "Coroutine", some 3, true), ("AsyncIterable", "AsyncIterable", some 1, true),
    ("AsyncIterator", "AsyncIterator", some 1, true), ("Iterable", "Iterable", some 1, true),
    ("Iterator", "Iterator", some 1, true), ("Reversible", "Reversible", some 1, true),
    ("Sized", "Sized", some 0, true), ("Container", "Container", some 1, true),
    ("Collection", "Collection", some 1, true), ("Callable", "Callable", some 2, true),
    ("AbstractSet", "Set", some 1, true), ("MutableSet", "MutableSet", some 1, true),
    ("Mapping", "Mapping", some 2, true), ("MutableMapping", "MutableMapping", some 2, true),
    ("Sequence", "Sequence", some 1, true), ("MutableSequence", "MutableSequence", some 1, true),
    ("ByteString", "ByteString", some 0, true), ("Tuple", "tuple", none, false),
    ("List", "list", some 1, false), ("Deque", "deque", some 1, true),
    ("Set", "set", some 1, false), ("FrozenSet", "frozenset", some 1, false),
    ("MappingView", "MappingView", some 1, true), ("KeysView", "KeysView", some 1, true),
    ("ItemsView", "ItemsView", some 2, true), ("ValuesView", "ValuesView", some 1, true),
    ("ContextManager", "AbstractContextManager", some 1, true),
    ("AsyncContextManager", "AbstractAsyncContextManager", some 1, true),
    ("Dict", "dict", some 2, false), ("DefaultDict", "defaultdict", some 2, true),
    ("OrderedDict", "OrderedDict", some 2, true), ("Counter", "Counter", some 1, true),
    ("ChainMap", "ChainMap", some 2, true), ("Generator", "Generator", some 3, true),
    ("AsyncGenerator", "AsyncGenerator", some 2, true), ("Type", "type", some 1, false),
    ("Pattern", "Pattern", some 1, true), ("Match", "Match", some 1, true)]

/-- The forms that make types of others, or stand for types. -/
def forms : String :=
  "NoReturn Never Self LiteralString ClassVar Final Union Optional Literal TypeAlias Concatenate
   TypeGuard Unpack Required NotRequired"

/-- The modules. -/
def moduleEntries : List ModuleEntry :=
  [⟨"collections",
      "deque defaultdict _OrderedDictKeysView _OrderedDictItemsView _OrderedDictValuesView _Link
       OrderedDict _tuplegetter Counter ChainMap UserDict UserList UserString _chain=chain
       _repeat=repeat _starmap=starmap _itemgetter=itemgetter",
      "_iskeyword _eq _recursive_repr _proxy namedtuple _count_elements",
      "__path__ __builtins__ __all__"⟩,
    ⟨"collections.abc",
      "Awaitable Coroutine AsyncIterable AsyncIterator AsyncGenerator Hashable Iterable Iterator
       Generator Reversible Sized Container Callable Collection Set MutableSet Mapping
       MutableMapping MappingView KeysView ItemsView ValuesView Sequence MutableSequence
       ByteString _CallableGenericAlias=abc._CallableGenericAlias",
      "",
      "__builtins__ __all__"⟩,
    ⟨"contextlib",
      "deque GenericAlias AbstractContextManager AbstractAsyncContextManager ContextDecorator
       AsyncContextDecorator _GeneratorContextManagerBase _GeneratorContextManager
       _AsyncGeneratorContextManager closing aclosing _RedirectStream redirect_stdout
       redirect_stderr suppress _BaseExitStack ExitStack AsyncExitStack nullcontext chdir
       MethodType=method",
      "wraps contextmanager asynccontextmanager",
      "__builtins__ __all__"⟩,
    ⟨"functools",
      "GenericAlias partial partialmethod _HashedSeq _lru_cache_wrapper singledispatchmethod
       cached_property _CacheInfo=CacheInfo",
      "get_cache_token namedtuple recursive_repr RLock update_wrapper wraps _gt_from_lt
       _le_from_lt _ge_from_lt _ge_from_le _lt_from_le _gt_from_le _lt_from_gt _ge_from_gt
       _le_from_gt _le_from_ge _gt_from_ge _lt_from_ge total_ordering cmp_to_key reduce
       _unwrap_partial _make_key lru_cache cache _c3_merge _c3_mro _compose_mro _find_impl
       singledispatch WRAPPER_ASSIGNMENTS WRAPPER_UPDATES _initial_missing _NOT_FOUND",
      "__builtins__ __all__ _convert"⟩,
    ⟨"operator",
      "attrgetter itemgetter methodcaller",
      "_abs lt le eq ne ge gt not_ truth is_ is_not abs add and_ floordiv index inv invert lshift
       mod mul matmul neg or_ pos pow rshift sub truediv xor concat contains countOf delitem
       getitem indexOf setitem length_hint call iadd iand iconcat ifloordiv ilshift imod imul
       imatmul ior ipow irshift isub itruediv ixor __lt__ __le__ __eq__ __ne__ __ge__ __gt__
       __not__ __abs__ __add__ __and__ __call__ __floordiv__ __index__ __inv__ __invert__
       __lshift__ __mod__ __mul__ __matmul__ __neg__ __or__ __pos__ __pow__ __rshift__ __sub__
       __truediv__ __xor__ __concat__ __contains__ __delitem__ __getitem__ __setitem__ __iadd__
       __iand__ __iconcat__ __ifloordiv__ __ilshift__ __imod__ __imul__ __imatmul__ __ior__
       __ipow__ __irshift__ __isub__ __itruediv__ __ixor__",
      "__builtins__ __all__"⟩,
    ⟨"re",
      "error Pattern Match Scanner",
      "RegexFlag match fullmatch search sub subn split findall finditer compile purge template
       escape _compile _compile_repl _expand _subx _pickle NOFLAG ASCII A IGNORECASE I LOCALE L
       UNICODE U MULTILINE M DOTALL S VERBOSE X TEMPLATE T DEBUG",
      "__path__ __builtins__ __all__ _special_chars_map _cache"⟩,
    ⟨"types",
      "SimpleNamespace DynamicClassAttribute _GeneratorWrapper GenericAlias UnionType NoneType
       NotImplementedType FunctionType=function LambdaType=function CodeType=code
       MappingProxyType=mappingproxy CellType=cell GeneratorType=generator
       CoroutineType=coroutine AsyncGeneratorType=async_generator MethodType=method
       BuiltinFunctionType=builtin_function_or_method
       BuiltinMethodType=builtin_function_or_method WrapperDescriptorType=wrapper_descriptor
       MethodWrapperType=method-wrapper MethodDescriptorType=method_descriptor
       ClassMethodDescriptorType=classmethod_descriptor ModuleType=module TracebackType=traceback
       FrameType=frame GetSetDescriptorType=getset_descriptor
       MemberDescriptorType=member_descriptor EllipsisType=ellipsis",
      "_cell_factory new_class resolve_bases prepare_class _calculate_meta coroutine",
      "__builtins__ __all__"⟩,
    ⟨"warnings",
      "_OptionError WarningMessage catch_warnings",
      "showwarning formatwarning _showwarnmsg_impl _formatwarnmsg_impl _showwarning_orig
       _showwarnmsg _formatwarning_orig _formatwarnmsg filterwarnings simplefilter _add_filter
       resetwarnings _processoptions _setoption _getaction _getcategory _is_internal_frame
       _next_external_frame warn warn_explicit _deprecated _warn_unawaited_coroutine
       _filters_mutated",
      "__builtins__ __all__ filters _onceregistry onceregistry"⟩,
    ⟨"sys",
      "",
      "addaudithook audit breakpointhook _clear_type_cache _current_frames _current_exceptions
       displayhook exception exc_info excepthook exit getdefaultencoding getdlopenflags
       getallocatedblocks getfilesystemencoding getfilesystemencodeerrors _getquickenedcount
       getrefcount getrecursionlimit getsizeof _getframe intern is_finalizing setswitchinterval
       getswitchinterval setdlopenflags setprofile getprofile setrecursionlimit settrace gettrace
       call_tracing _debugmallocstats set_coroutine_origin_tracking_depth
       get_coroutine_origin_tracking_depth set_asyncgen_hooks get_asyncgen_hooks unraisablehook
       get_int_max_str_digits set_int_max_str_digits __displayhook__ __excepthook__
       __breakpointhook__ __unraisablehook__ __interactivehook__ stderr _git float_info int_info
       hash_info builtin_module_names stdlib_module_names version_info flags thread_info stdin
       stdout",
      "implementation meta_path path_importer_cache path_hooks path argv orig_argv warnoptions
       _xoptions"⟩]

/-- The numbers and texts among the members of modules. -/
def moduleConstants : List (String × List (String × Value)) :=
  [("re", [("_MAXCACHE", .int 512)]),
    ("warnings", [("_defaultaction", .text "default"), ("defaultaction", .text "default"),
      ("_DEPRECATED_MSG", .text "?")]),
    ("sys", [("hexversion", .int 51055088), ("_framework", .text ""), ("api_version", .int 1013),
      ("version", .text "3.11.9 ("), ("copyright", .text "?"), ("platform", .text "linux"),
      ("maxsize", .int 9223372036854775807), ("maxunicode", .int 1114111),
      ("byteorder", .text "little"), ("abiflags", .text ""), ("float_repr_style", .text "short"),
      ("executable", .text "/"), ("_base_executable", .text "/"), ("prefix", .text "/usr/local"),
      ("base_prefix", .text "/usr/local"), ("exec_prefix", .text "/usr/local"),
      ("base_exec_prefix", .text "/usr/local"), ("platlibdir", .text "lib"),
      ("pycache_prefix", .nothing), ("_stdlib_dir", .text "/usr/local/lib"),
      ("dont_write_bytecode", .bool false), ("_home", .nothing),
      ("modules", .reference moduleAddress),
      ("version_info", .tuple [.int 3, .int 11, .int 9, .text "final", .int 0])])]

/-- The modules among the members of modules. -/
def submodules : List (String × List (String × String)) :=
  [("collections",
      [("abc", "collections.abc"), ("_collections_abc", "collections.abc"), ("_sys", "sys")]),
    ("contextlib",
      [("abc", "abc"), ("os", "os"), ("sys", "sys"), ("_collections_abc", "collections.abc")]),
    ("re", [("enum", "enum"), ("functools", "functools"), ("copyreg", "copyreg")]),
    ("warnings", [("sys", "sys")])]

/-- The modules of which no members are listed. -/
def otherModules : List String :=
  ["abc", "os", "enum", "copyreg", "io", "json", "math", "datetime", "decimal", "fractions", "uuid",
    "random", "time", "string", "itertools", "inspect", "dataclasses", "pathlib", "copy", "numbers",
    "asyncio", "logging", "threading", "subprocess", "tempfile", "pickle", "struct", "hashlib",
    "base64", "textwrap", "traceback", "weakref", "builtins", "typing"]

/-! ## Values of names -/

/-- The classes that a text lists. -/
def typesIn (text : String) : List (String × Value) :=
  (Text.words text).map fun word =>
    match word.splitOn "=" with
    | [name, type] => (name, .type type)
    | _ => (word, .type word)

/-- The functions of a module that a text lists. -/
def functionsIn (home text : String) : List (String × Value) :=
  (Text.words text).map fun name => (name, .function (home ++ name))

/-- The form or class under the name of an alias. -/
def alias? (name : String) : Option (String × Option Nat × Bool) := List.lookup name aliases

/-- The class behind a name that takes types as arguments. -/
def aliasOrigin (name : String) : String := ((alias? name).map Prod.fst).getD name

/-- The name by which a form with arguments goes, or a class that takes types. -/
def genericName (origin : String) : String :=
  ((aliases.find? fun (_, type, _) => type = origin).map Prod.fst).getD origin

/-- A variable of generic types, with its constraints, what it is bound by, and whether it varies
with its type. -/
def typeVariable (number : Nat) (name : String) (constraints : List Value) (bound : Value)
    (isCovariant isContravariant : Bool) : Value :=
  .variable .type number name
    [("__constraints__", .tuple constraints), ("__bound__", bound),
      ("__covariant__", .bool isCovariant), ("__contravariant__", .bool isContravariant)]

/-- The variables of generic types among the names that everything sees. -/
def variableNames : List (String × Value) :=
  let plain (number : Nat) (name : String) (isCovariant isContravariant : Bool) :
      String × Value :=
    (name, typeVariable number name [] .nothing isCovariant isContravariant)
  [plain 0 "T" false false, plain 1 "KT" false false, plain 2 "VT" false false,
    plain 3 "T_co" true false, plain 4 "V_co" true false, plain 5 "VT_co" true false,
    plain 6 "T_contra" false true,
    ("CT_co", typeVariable 7 "CT_co" [] (.type "type") true false),
    ("AnyStr", typeVariable 8 "AnyStr" [.type "bytes", .type "str"] .nothing false false)]

/-- The names that everything in a type hint sees. -/
def globals : List (String × Value) :=
  [("__name__", .text "typing"), ("__doc__", .text "?"), ("__package__", .text ""),
    ("__loader__", .function "typing.__loader__"), ("__spec__", .function "typing.__spec__"),
    ("__file__", .text "/"), ("__cached__", .text "/"),
    ("__builtins__", .reference builtinAddress)] ++
  typesIn formTypes ++
  typesIn "WrapperDescriptorType=wrapper_descriptor MethodWrapperType=method-wrapper
    MethodDescriptorType=method_descriptor _alias=_SpecialGenericAlias _NamedTuple=NamedTuple
    _TypedDict=TypedDict Text=str" ++
  functionsIn "typing." formFunctions ++
  aliases.map (fun (name, _) => (name, .alias name)) ++
  (Text.words forms).map (fun name => (name, .form name)) ++ variableNames ++
  (Text.words "collections contextlib functools operator types warnings").map
    (fun name => (name, .module name)) ++
  [("stdlib_re", .module "re"), ("_ASSERT_NEVER_REPR_MAX_LENGTH", .int 100),
    ("TYPE_CHECKING", .bool false), ("_allowed_types", .tuple []), ("_prohibited", .frozenSet []),
    ("_special", .frozenSet [])] ++
  (Text.words "__all__ _cleanups _TYPING_INTERNALS _SPECIAL_NAMES EXCLUDED_ATTRIBUTES
    _PROTO_ALLOWLIST _overload_registry").map (fun name => (name, .reference scrapAddress))

/-- The names that are there without being given. -/
def builtins : List (String × Value) :=
  [("__name__", .text "builtins"), ("__doc__", .text "?"), ("__package__", .text ""),
    ("__loader__", .function "__loader__"), ("__spec__", .function "__spec__")] ++
  functionsIn "" plainFunctions ++ typesIn plainTypes ++
  [("EnvironmentError", .type "OSError"), ("IOError", .type "OSError"), ("None", .nothing),
    ("Ellipsis", .ellipsis), ("NotImplemented", .notImplemented), ("False", .bool false),
    ("True", .bool true), ("__debug__", .bool true)]

/-- The members of a module. -/
def membersOf (name : String) : List (String × Value) :=
  if name = "typing" then globals
  else if name = "builtins" then builtins
  else
    match moduleEntries.find? (·.name = name) with
    | none => []
    | some entry =>
      [("__name__", .text name), ("__doc__", .text "?"),
        ("__package__", .text (if name.startsWith "collections" then "collections" else ""))] ++
      typesIn entry.types ++ functionsIn (name ++ ".") entry.functions ++
      (Text.words entry.scraps).map (fun name => (name, .reference scrapAddress)) ++
      ((List.lookup name moduleConstants).getD []) ++
      ((List.lookup name submodules).getD []).map fun (name, module) => (name, .module module)

/-- The modules by their names. -/
def modules : List (String × Value) :=
  (moduleEntries.map (·.name) ++ otherModules).map fun name => (name, .module name)

/-! ## The store at the start -/

/-- The entries of a table of names. -/
def entriesOf (names : List (String × Value)) : List (Value × Value) :=
  names.map fun (name, value) => (.text name, value)

/-- The store in which an evaluation begins. -/
def store : Store where
  objects := #[.table (entriesOf globals), .table (entriesOf builtins), .table (entriesOf modules),
    .list []]
  made := variableNames.length

end Names

end TypeHint

end CallPlan
