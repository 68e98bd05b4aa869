import CallPlan.TypeHint.Construct

/-!
# CallPlan.TypeHint.Made

Classes and types that are made in an expression.

* A class has a name, bases that go together, and what it holds. A class of named items is one of
  tuples, one of named entries one of tables.
* A variable of generic types is different from every other one, also of the same name.
-/

namespace CallPlan

namespace TypeHint

/-! ## Classes that others can be made of -/

/-- The classes that are no bases of others. -/
def finalTypes : List String :=
  ["bool", "NoneType", "ellipsis", "NotImplementedType", "function", "range", "slice", "generator",
    "memoryview", "method", "builtin_function_or_method", "dict_keys", "dict_values", "dict_items",
    "mappingproxy", "code", "frame", "coroutine", "async_generator", "UnionType", "TypeVar",
    "ParamSpec", "TypeVarTuple", "ParamSpecArgs", "ParamSpecKwargs", "ForwardRef", "Annotated",
    "NewType", "wrapper_descriptor", "method-wrapper", "method_descriptor", "getset_descriptor",
    "classmethod_descriptor", "member_descriptor", "traceback", "cell", "itemgetter", "attrgetter",
    "methodcaller", "_GenericAlias", "_SpecialGenericAlias", "_BaseGenericAlias", "_SpecialForm"]

/-- The classes whose values are made up in ways of their own, so that no class has two of them as
bases. -/
def solidTypes : List String :=
  ["int", "float", "complex", "str", "bytes", "bytearray", "tuple", "list", "dict", "set",
    "frozenset", "type", "property", "staticmethod", "classmethod", "enumerate", "zip", "map",
    "filter", "reversed", "super", "module", "deque", "SimpleNamespace", "partial", "BaseException",
    "GenericAlias", "OSError", "SyntaxError", "UnicodeError", "StopIteration", "SystemExit",
    "ImportError"]

/-- The words that are no names. -/
def isWord (name : String) : Bool := Token.reserved.contains name

namespace Machine

variable (m : Machine)

/-- The solid classes among those of some bases. -/
def solidBases (store : Store) (bases : List Value) : List String :=
  (bases.filterMap fun base =>
    (store.line base).findSome? fun
      | .type name => if solidTypes.contains name then some name else none
      | _ => none).eraseDups

/-- The order of the classes of a class with certain bases, if there is one. -/
def baseOrder? (store : Store) (bases : List Value) : Bool :=
  let names (values : List Value) : List String := values.map fun
    | .type name => name
    | .reference address => toString address
    | _ => ""
  (Class.merged 400 (bases.map (fun base => names (store.line base)) ++ [names bases])).isSome

/-- A new class. -/
def makeClass (name : String) (bases : List Value) (fields : List (String × Value)) :
    Action Value := do
  let store ← get
  if (Text.chars name.toList).contains '\x00' then
    throw (.badValue "type name must not contain null characters")
  else if !Text.isPaired name then throw ⟨"UnicodeEncodeError", ""⟩
  else
    let bases := if bases.isEmpty then [.type "object"] else bases
    let names := bases.filterMap fun
      | .type name => some name
      | _ => none
    let solid := solidBases store bases
    let related := solid.all fun a => solid.all fun b => Class.isBelow a b || Class.isBelow b a
    if !bases.all (TypeForm.isClass store) || names.any finalTypes.contains ||
        (store.distinct bases).length ≠ bases.length || !related || !baseOrder? store bases then
      throw .unsuited
    else allocate (.type name bases fields)

/-- A class, or the class of a value. -/
def makeType (given : Arguments) : Action Value := do
  match given.values with
  | [value] =>
    if given.named.isEmpty then return (← get).typeOf value else throw .unsuited
  | [name, bases, table] =>
    match ← name.plain, ← bases.plain, table? (← get) table with
    | .text name, .tuple bases, some (_, entries) =>
      let fields ← entries.mapM fun (key, value) => do return (← Machine.display m key, value)
      makeClass name bases fields
    | _, _, _ => throw .unsuited
  | _ => throw .unsuited

/-! ## Classes of named items -/

/-- Checks a name of a class of named items, or of one of the items. -/
def checkName (name : String) : Action Unit := do
  let shown := String.ofList (Text.quoted name)
  if !Text.isName name.toList then
    throw (.badValue ("Type names and field names must be valid identifiers: " ++ shown))
  else if isWord name then
    throw (.badValue ("Type names and field names cannot be a keyword: " ++ shown))

/-- A class of tuples whose items have names; the last ones have defaults. -/
def makeItemClass (name : String) (fields : List String) (defaults : List Value)
    (hints : List (String × Value)) : Action Value := do
  (name :: fields).forM checkName
  let rec distinct : List String → List String → Action Unit
    | _, [] => return ()
    | seen, field :: rest => do
      let shown := String.ofList (Text.quoted field)
      if field.startsWith "_" then
        throw (.badValue ("Field names cannot start with an underscore: " ++ shown))
      else if seen.contains field then
        throw (.badValue ("Encountered duplicate field name: " ++ shown))
      else distinct (field :: seen) rest
  distinct [] fields
  if fields.length < defaults.length then throw .unsuited
  else
    let texts := fields.map Value.text
    let entries := (fields.drop (fields.length - defaults.length)).zip defaults
    let table (entries : List (String × Value)) : Action Value :=
      Value.table (entries.map fun (k, v) => (.text k, v))
    allocate (.type name [.type "tuple"]
      [("_fields", .tuple texts), ("__match_args__", .tuple texts),
        ("_field_defaults", ← table entries), ("__annotations__", ← table hints)])

/-- The names in a text, or among the items of a value. -/
def namesIn (value : Value) : Action (List String) := do
  match ← value.plain with
  | .text s =>
    let points := (Text.points s.toList).map fun n => if n = 0x2c then 0x20 else n
    return (TextMethod.wordsOf false (points.length + 1) (-1) points).map Quoted.textOf
  | _ => (← m.collect value).mapM m.display

/-- A class of tuples whose items have names. -/
def makeNamedTuple (given : Arguments) : Action Value := do
  let ordinary := given.named.filter fun (name, _) => name = "typename" || name = "field_names"
  let special := given.named.filter fun (name, _) => name ≠ "typename" && name ≠ "field_names"
  let found ← Value.lift (Arguments.placed ⟨given.values, ordinary⟩ ["typename", "field_names"] 2)
  if special.any fun (name, _) => !(["rename", "defaults", "module"].contains name) then
    throw .unsuited
  else
    let name ← m.display ((Arguments.at? found 0).getD .nothing)
    let fields ← m.namesIn ((Arguments.at? found 1).getD .nothing)
    let renames ← m.truth ((List.lookup "rename" special).getD (.bool false))
    let fields := if !renames then fields
      else (fields.zipIdx.foldl (fun (done : List String × List String) (field, k) =>
        let isFit := Text.isName field.toList && !isWord field && !field.startsWith "_" &&
          !done.2.contains field
        ((if isFit then field else "_" ++ toString k) :: done.1, field :: done.2))
      ([], [])).1.reverse
    let defaults ← match (List.lookup "defaults" special).getD .nothing with
      | .nothing => pure []
      | value => m.collect value
    if renames then
      let texts := fields.map Value.text
      allocate (.type name [.type "tuple"] [("_fields", .tuple texts)])
    else makeItemClass name fields defaults []

/-- The types of named items, each checked. -/
def checkedFields (pairs : List (Value × Value)) : Action (List (String × Value)) :=
  pairs.mapM fun (name, type) => do return (← m.display name, ← TypeForm.check false type)

/-- A class of tuples whose items have names and types. -/
def makeTypedTuple (given : Arguments) : Action Value := do
  let (name, fields?) ← match given.values with
    | [name] => pure (name, none)
    | [name, fields] => pure (name, if fields.isNothing then none else some fields)
    | _ => throw .unsuited
  let pairs ← match fields?, given.named with
    | none, named => pure (namedEntries named)
    | some _, _ :: _ => throw .unsuited
    | some fields, [] => do
      (← m.collect fields).mapM fun item => do
        match ← m.collect item with
        | [name, type] => return (name, type)
        | parts =>
          if parts.length < 2 then
            throw (.badValue ("not enough values to unpack (expected 2, got " ++
              toString parts.length ++ ")"))
          else throw (.badValue "too many values to unpack (expected 2)")
  let hints ← m.checkedFields pairs
  makeItemClass (← m.display name) (hints.map Prod.fst) [] hints

/-- A class of tables whose entries have names and types. -/
def makeTypedTable (given : Arguments) : Action Value := do
  let named := given.named.filter fun (name, _) => name ≠ "total"
  let (name, fields?) ← match given.values with
    | [name] => pure (name, none)
    | [name, fields] => pure (name, some fields)
    | _ => throw .unsuited
  let pairs ← match fields?, named with
    | none, named => pure (namedEntries named)
    | some fields, named => do
      if !named.isEmpty && (← m.truth fields) then throw .unsuited
      else m.entriesOf fields
  let hints ← pairs.mapM fun (name, type) => do
    let type ← match type with
      | .generic "Required" _ | .generic "NotRequired" _ => pure type
      | type => TypeForm.check false type
    return (← m.display name, type)
  let text ← Machine.text name
  let table ← Value.table (hints.map fun (k, v) => (.text k, v))
  let keys := hints.map fun (k, _) => Value.text k
  makeClass text [.type "dict"]
    [("__annotations__", table), ("__total__", .bool true),
      ("__required_keys__", .frozenSet keys), ("__optional_keys__", .frozenSet [])]

/-! ## Types under new names and variables -/

/-- A type that is another one under its own name. -/
def makeNewType (given : Arguments) : Action Value := do
  let found ← Value.lift (given.placed ["name", "tp"] 2)
  match ← ((Arguments.at? found 0).getD .nothing).plain with
  | .text name =>
    let number ← freshNumber
    return .newType number (lastPart name) ((Arguments.at? found 1).getD .nothing)
  | _ => throw .unsuited

/-- How a variable varies with its type, and what it is bound by. -/
def varianceOf (named : List (String × Value)) : Action (List (String × Value)) := do
  let flag (name : String) : Action Bool := m.truth ((List.lookup name named).getD (.bool false))
  let isCovariant ← flag "covariant"
  let isContravariant ← flag "contravariant"
  if isCovariant && isContravariant then
    throw (.badValue "Bivariant types are not supported.")
  else
    let bound := (List.lookup "bound" named).getD .nothing
    let checked ← if ← m.truth bound then TypeForm.check false bound else pure .nothing
    return [("__covariant__", .bool isCovariant), ("__contravariant__", .bool isContravariant),
      ("__bound__", checked)]

/-- A variable of generic types. -/
def makeVariable (kind : VariableKind) (given : Arguments) : Action Value := do
  let named := given.named.filter fun (name, _) => name ≠ "name"
  let own := (List.lookup "name" given.named).toList
  let allowed := if kind = .types then [] else ["bound", "covariant", "contravariant"]
  match own ++ given.values with
  | [] => throw .unsuited
  | name :: constraints =>
    if named.any (fun (name, _) => !allowed.contains name) ||
        (kind ≠ .type && !constraints.isEmpty) || (!own.isEmpty && !given.values.isEmpty) then
      throw .unsuited
    else
      let shown ← m.display name
      if kind = .types then return .variable kind (← freshNumber) shown []
      else
        let fields ← m.varianceOf named
        let isBound := ((List.lookup "bound" named).getD .nothing).isNothing
        if kind = .type && ((!constraints.isEmpty && !isBound) || constraints.length = 1) then
          throw .unsuited
        else
          let checked ← constraints.mapM (TypeForm.check false)
          let own := if kind = .type then [("__constraints__", Value.tuple checked)] else []
          return .variable kind (← freshNumber) shown (own ++ fields)

/-- A text that stands for the type it names. -/
def makeForward (given : Arguments) : Action Value := do
  let found ← Value.lift (given.placed ["arg", "is_argument", "module", "is_class"] 1)
  match ← ((Arguments.at? found 0).getD .nothing).plain with
  | .text s =>
    let asForm ← m.truth ((Arguments.at? found 3).getD (.bool false))
    match quotedExpression s with
    | .ok _ => return .forward s asForm
    | .error fault => throw fault
  | _ => throw .unsuited

/-- A new class or type, by the class that it is a value of. -/
def makeTypeLike? (type : String) (given : Arguments) : Action (Option Value) := do
  match type with
  | "type" | "ABCMeta" => return some (← m.makeType given)
  | "NewType" => return some (← makeNewType given)
  | "TypeVar" => return some (← m.makeVariable .type given)
  | "ParamSpec" => return some (← m.makeVariable .parameters given)
  | "TypeVarTuple" => return some (← m.makeVariable .types given)
  | "ForwardRef" => return some (← m.makeForward given)
  | "_GenericAlias" | "_SpecialGenericAlias" =>
    match given.values with
    | [origin, .tuple parts] => return some (.applied origin parts false)
    | [origin, part] => return some (.applied origin [part] false)
    | _ => throw .unsuited
  | "GenericAlias" =>
    let found ← Value.lift (given.placed ["", ""] 2)
    return some (TypeForm.applyAny ((Arguments.at? found 0).getD .nothing)
      ((Arguments.at? found 1).getD .nothing))
  | _ => return none

end Machine

end TypeHint

end CallPlan
