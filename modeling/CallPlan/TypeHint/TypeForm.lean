import CallPlan.TypeHint.Equality
import CallPlan.TypeHint.Grammar
import CallPlan.TypeHint.Scope

/-!
# CallPlan.TypeHint.TypeForm

Types that are made of types.

* Where a type is asked for, nearly every value is taken: nothing stands for its class, and a text
  for the type that it names, which must be written like an expression. What is refused is a form
  without its arguments, a form that only marks a field, and a tuple (`check`).
* A union is flat and without repetitions; of one type alone it is this type (`union`, `choice`).
* A generic type with free variables takes other types in their place (`reapply`). A variable of
  types takes any number of them, one of parameters a list of them.
-/

namespace CallPlan

namespace TypeHint

/-- The expression that a text is written like. -/
def expressionOf (s : String) : Except Fault Expr :=
  let cs := Text.chars s.toList
  if !Text.isPaired s then .error ⟨"UnicodeEncodeError", ""⟩
  else if cs.contains '\x00' then
    .error (.badValue "source code string cannot contain null bytes")
  else
    match Grammar.expression? cs with
    | some expr => if expr.isSound .outer then .ok expr else .error .malformed
    | none => .error .malformed

/-- The expression that a text stands for where a type is asked for; a star at the start says that
the text stands for all items of a value, of which the first one counts. -/
def quotedExpression (s : String) : Except Fault Expr :=
  expressionOf (if s.startsWith "*" then "(" ++ s ++ ",)[0]" else s)

namespace TypeForm

/-! ## Where a type is asked for -/

/-- The type that a value stands for: `asForm` says whether a text may name a form that marks a
field. -/
def convert (asForm : Bool) (value : Value) : Action Value := do
  match value, ← value.plain with
  | .nothing, _ => return .noneType
  | _, .text s =>
    match quotedExpression s with
    | .ok _ => return .forward s asForm
    | .error fault => throw fault
  | value, _ => return value

/-- The forms that stand for types without arguments. -/
def bareForms : List String := ["LiteralString", "NoReturn", "Never", "Self", "TypeAlias"]

/-- The forms that mark a field. -/
def fieldForms : List String := ["ClassVar", "Final"]

/-- The classes that only make classes generic. -/
def genericBases : List String := ["Generic", "Protocol"]

/-- A value where a type is asked for; `asForm` says whether it may be a form that marks a field. -/
def check (asForm : Bool) (value : Value) : Action Value := do
  let type ← convert asForm value
  let refused := match type with
    | .generic "Annotated" (.form name :: _) => !asForm && fieldForms.contains name
    | .generic origin _ =>
      genericBases.contains origin || (!asForm && fieldForms.contains origin)
    | .tuple _ => true
    | .form name => !(bareForms.contains name || (asForm && fieldForms.contains name))
    | .type name => genericBases.contains name
    | _ => false
  if refused then throw .unsuited else return type

/-! ## Unions -/

/-- The types of which a type is one. -/
def alternatives : Value → List Value
  | .generic "Union" parts | .choice parts => parts
  | value => [value]

/-- One of several types. -/
def union (values : List Value) : Action Value := do
  let types := (← values.mapM (check false)).flatMap alternatives
  Value.hashed types
  match (← get).distinct types with
  | [] => throw .unsuited
  | [only] => return only
  | types => return .generic "Union" types

/-- One of several classes. -/
def choice (values : List Value) : Action Value := do
  let types := values.map fun
    | .nothing => .noneType
    | value => value
  match (← get).distinct (types.flatMap alternatives) with
  | [only] => return only
  | types => return .choice types

/-- Whether a value is a class. -/
def isClass (store : Store) : Value → Bool
  | .type _ => true
  | .reference address =>
    match store.get? address with
    | some (.type ..) => true
    | _ => false
  | _ => false

/-- Whether a value is a class, or one of several, perhaps with arguments. -/
def isClassLike (store : Store) : Value → Bool
  | .applied .. | .choice _ => true
  | value => isClass store value

/-- Whether a value is a type that is more than a class. -/
def isTypeLike : Value → Bool
  | .alias _ | .form _ | .newType .. | .forward .. | .generic .. => true
  | .variable kind .. => kind ≠ .types
  | _ => false

/-- One of two types, if both values are some. -/
def either? (left right : Value) : Action (Option Value) := do
  let store ← get
  if isTypeLike left || isTypeLike right then return some (← union [left, right])
  else
    let both := isClassLike store left && (isClassLike store right || right.isNothing) ||
      (left.isNothing && isClassLike store right)
    if both then return some (← choice [left, right]) else return none

/-- One of two types. -/
def either (left right : Value) : Action Value := do
  match ← either? left right with
  | some type => return type
  | none => throw .unsuited

/-! ## Forms with arguments -/

/-- Whether a value tells where it was defined. -/
def hasModule (store : Store) : Value → Bool
  | .type _ | .alias _ | .form _ | .variable .. | .newType .. | .forward .. | .function _
  | .generic .. | .choice _ => true
  | .method _ name => !isSpecialName name
  | .applied origin .. =>
    match origin with
    | .reference address => isMade address
    | .type _ => true
    | _ => false
  | .reference address => isMade address
  | _ => false
where
  /-- Whether the object at an address tells where it was defined. -/
  isMade (address : Nat) : Bool :=
    match store.get? address with
    | some (.type ..) | some (.closure _) | some (.record (.reference _) ..) => true
    | some (.record (.type name) ..) =>
      (Class.find? name).any fun entry => !(["builtins", "_io"].contains entry.home)
    | _ => false

/-- A type under further marks; the marks of a type that has some come first. -/
def annotated (type : Value) (marks : List Value) : Action Value := do
  match type with
  | .generic "Annotated" (inner :: earlier) =>
    return .generic "Annotated" (inner :: earlier ++ marks)
  | type =>
    if hasModule (← get) type then return .generic "Annotated" (type :: marks)
    else throw .noAttribute

/-- The items of a list. -/
def listItems? (store : Store) : Value → Option (List Value)
  | .reference address =>
    match store.get? address with
    | some (.list items) => some items
    | _ => none
  | _ => none

/-- The parameters of a function in its type, if they are written as such. -/
def parameterTypes? (store : Store) : Value → Option (List Value)
  | .tuple parts => some parts
  | value => listItems? store value

/-- Whether a value may stand for all parameters of a function. -/
def isParameters (store : Store) : Value → Bool
  | .ellipsis | .variable .parameters .. | .generic "Concatenate" _ => true
  | value => (parameterTypes? store value).isSome

/-- Whether a value is a variable of types that stands for all of them. -/
def isUnpackedTypes : Value → Bool
  | .generic "Unpack" [.variable .types ..] => true
  | _ => false

/-- A class under a name that takes types, with arguments. -/
def applyAlias (name : String) (index : Value) : Action Value := do
  match name, index with
  | "Callable", .tuple [parameters, result] =>
    let result ← check false result
    match parameters, parameterTypes? (← get) parameters with
    | .ellipsis, _ => return .generic name [.ellipsis, result]
    | _, some types => return .generic name ((← types.mapM (convert false)) ++ [result])
    | parameters, none => return .generic name [← convert false parameters, result]
  | "Callable", _ => throw .unsuited
  | name, index =>
    let given := index.arguments
    let (types, ending) : List Value × List Value := match given.reverse with
      | .ellipsis :: before =>
        if name = "Tuple" && !before.isEmpty then (before.reverse, [.ellipsis]) else (given, [])
      | _ => (given, [])
    let types ← types.mapM (check false)
    match Names.alias? name with
    | some (origin, some count, _) =>
      if count ≠ 0 && types.length = count then return .generic origin types else throw .unsuited
    | _ => return .generic (Names.aliasOrigin name) (types ++ ending)

/-- The values of literal types among values stand for themselves. -/
def literalValues (values : List Value) : List Value :=
  values.flatMap fun
    | .generic "Literal" parts => parts
    | value => [value]

/-- Values without repetitions; values of different classes differ. -/
def distinctLiterals (values : List Value) : Action (List Value) := do
  let store ← get
  if values.all store.isHashable then
    let pairs := store.distinct (values.map fun value => .tuple [value, store.typeOf value])
    return pairs.filterMap fun
      | .tuple (value :: _) => some value
      | _ => none
  else return values

/-- A form with arguments. -/
def applyForm (name : String) (index : Value) : Action Value := do
  match name with
  | "Optional" => union [← check false index, .noneType]
  | "Union" => union index.arguments
  | "Literal" => return .generic name (← distinctLiterals (literalValues index.arguments))
  | "Concatenate" =>
    match index.arguments.reverse with
    | last :: before =>
      let isOpen := match last with
        | .ellipsis | .variable .parameters .. => true
        | _ => false
      if isOpen then return .generic name ((← before.reverse.mapM (check false)) ++ [last])
      else throw .unsuited
    | [] => throw .unsuited
  | name =>
    if bareForms.contains name then throw .unsuited
    else return .generic name [← check false index]

/-- Whether a value may be a parameter of a generic class. -/
def isVariable : Value → Bool
  | .variable kind .. => kind ≠ .types
  | value => isUnpackedTypes value

/-- The classes that take one type as an argument. -/
def typedClasses : List String := ["IO", "SupportsAbs", "SupportsRound"]

/-- A class that takes any arguments, with arguments. -/
def applyAny (origin index : Value) : Value := .applied origin index.arguments false

/-- The class of functions with the types of parameters and result. -/
def applyCallable (parameters result : Value) : Action Value := do
  let store ← get
  match parameterTypes? store parameters with
  | some types => return .applied (.type "Callable") (types ++ [result]) false
  | none =>
    if isParameters store parameters then
      return .applied (.type "Callable") [parameters, result] false
    else throw .unsuited

/-- A class with arguments. -/
def applyClass (name : String) (index : Value) : Action Value := do
  match name, index.arguments with
  | "Annotated", type :: mark :: marks =>
    if isUnpackedTypes type then throw .unsuited
    else annotated (← check true type) (mark :: marks)
  | "Annotated", _ => throw .unsuited
  | "Generic", given | "Protocol", given =>
    let given ← given.mapM (convert false)
    if !given.isEmpty && given.all isVariable &&
        ((← get).distinct given).length = given.length then
      return .generic name given
    else throw .unsuited
  | "Callable", [parameters, result] => applyCallable parameters result
  | "Callable", _ => throw .unsuited
  | name, given =>
    if name = "type" then return applyAny (.type name) index
    else if typedClasses.contains name then
      let given ← given.mapM (convert false)
      if given.length = 1 then return .generic name given else throw .unsuited
    else if Class.isBelow name "Generic" || !Class.isGeneric name then throw .unsuited
    else return applyAny (.type name) index

/-! ## Variables -/

/-- The free variables of values, each at its first place; a step of fuel for each level of them. -/
def variablesIn (store : Store) : (fuel : Nat) → List Value → List Value
  | 0, _ => []
  | fuel + 1, values =>
    store.distinct (values.flatMap fun value =>
      match value with
      | .variable .. => [value]
      | .generic "Annotated" (type :: _) => variablesIn store fuel [type]
      | .generic _ parts | .applied _ parts _ | .choice parts => variablesIn store fuel parts
      | _ => [])

/-- The free variables among the parts of a type; parameters of functions are looked into. -/
def freeVariables (store : Store) (type : Value) : List Value :=
  let parts := match type with
    | .generic "Annotated" (inner :: _) => [inner]
    | .generic _ parts =>
      parts.flatMap fun
        | .tuple types => types
        | part => [part]
    | .applied _ parts _ | .choice parts => parts
    | _ => []
  variablesIn store Store.depthLimit parts

/-- The types for which a value stands, if it stands for all items of a tuple. -/
def unpackedTypes? : Value → Action (Option (List Value))
  | .generic "Unpack" [.generic "tuple" parts] => return some parts
  | .generic "Unpack" [.generic _ _] => throw ⟨"AssertionError", ""⟩
  | .applied (.type "tuple") parts true => return some parts
  | _ => return none

/-- Values with the types for which some of them stand in their place, unless there may be any
number of these. -/
def unpacked (values : List Value) : Action (List Value) := do
  let lists ← values.mapM fun value => do
    match ← unpackedTypes? value with
    | some types =>
      match types.getLast? with
      | some .ellipsis => return [value]
      | _ => return types
    | none => return [value]
  return lists.flatten

/-- The position of a value in a list. -/
def position? (store : Store) (value : Value) (values : List Value) : Option Nat :=
  values.findIdx? (store.equal value)

/-- The arguments for some variables, of which one stands for any number of types: these are one
tuple among the others. -/
def gathered (slots : List Value) (index : Nat) (given : List Value) :
    Action (List Value) := do
  let others := (slots.drop (index + 1)).filter fun
    | .variable .types .. => true
    | _ => false
  let open? ← given.mapM fun value => do
    match value, ← unpackedTypes? value with
    | _, some [part, .ellipsis] => return some part
    | _, _ => return none
  let after := slots.length - index - 1
  match others, (open?.zipIdx.filterMap fun (part, k) => part.map ((k, ·))) with
  | _ :: _, _ | _, _ :: _ :: _ => throw .unsuited
  | [], [(k, part)] =>
    let left := min index k
    let right := min after (given.length - k - 1)
    return given.take left ++ List.replicate (index - left) part ++
      [.tuple ((given.take (given.length - right)).drop left)] ++
      List.replicate (after - right) part ++ given.drop (given.length - right)
  | [], [] =>
    if given.length < index + after then throw .unsuited
    else
      return given.take index ++ [.tuple ((given.take (given.length - after)).drop index)] ++
        given.drop (given.length - after)

/-- The arguments as a variable of a type asks for them. -/
def prepared (slots given : List Value) (slot : Value) : Action (List Value) := do
  let store ← get
  match slot, position? store slot slots with
  | .variable .types .., some index => gathered slots index given
  | .variable .parameters .., some index =>
    match given[index]? with
    | none => throw .unsuited
    | some value =>
      if slots.length = 1 && !isParameters store (given.headD .nothing) then
        return [.tuple given]
      else
        match listItems? store value with
        | some items => return given.set index (.tuple items)
        | none => return given
  | _, _ => return given

/-- A value in the place of a variable. -/
def inPlace (kind : VariableKind) (value : Value) : Action Value := do
  match kind with
  | .type =>
    match ← check false value with
    | .generic "Unpack" _ | .applied _ _ true => throw .unsuited
    | type => return type
  | .parameters =>
    let store ← get
    match parameterTypes? store value with
    | some types => return .tuple (← types.mapM (check false))
    | none => if isParameters store value then return value else throw .unsuited
  | .types => throw .unsuited

/-- A type made again of other parts. -/
def rebuild (type : Value) (parts : List Value) : Action Value := do
  match type, parts with
  | .generic "Union" _, parts => union parts
  | .choice _, first :: rest => rest.foldlM either first
  | .generic "Annotated" (_ :: marks), [type] => annotated type marks
  | .generic "Annotated" _, _ => throw ⟨"AssertionError", ""⟩
  | .generic "Concatenate" _, parts =>
    let before := parts.dropLast
    match parts.getLast? with
    | none => throw .noPosition
    | some last =>
      match parameterTypes? (← get) last with
      | some types => return .tuple (before ++ types)
      | none =>
        match last with
        | .generic "Concatenate" inner => return .generic "Concatenate" (before ++ inner)
        | last => return .generic "Concatenate" (before ++ [last])
  | .generic origin _, parts => return .generic origin parts
  | .applied (.type "Callable") _ _, parts =>
    match parts with
    | [] => throw .noPosition
    | first :: rest =>
      if (parameterTypes? (← get) first).isSome then
        match rest with
        | [result] => applyCallable first result
        | _ => throw .unsuited
      else applyCallable (.tuple parts.dropLast) (parts.getLastD .nothing)
  | .applied origin _ isUnpacked, parts => return .applied origin parts isUnpacked
  | type, _ => return type

/-- The parts of a type in which its variables may stand. -/
def openParts : Value → List Value
  | .generic "Annotated" (type :: _) => [type]
  | .generic _ parts | .applied _ parts _ | .choice parts => parts
  | _ => []

/-- A generic type with types in the places of its variables; a step of fuel for each level of
it. -/
def reapplyIn : (fuel : Nat) → Value → List Value → Action Value
  | 0, _, _ => throw .tooDeep
  | fuel + 1, type, given => do
    let store ← get
    let slots := freeVariables store type
    let isClosed := match type with
      | .generic origin _ => genericBases.contains origin
      | _ => false
    if isUnpackedTypes type then return .tuple given
    else if isClosed || slots.isEmpty then throw .unsuited
    else
      let given ← match type with
        | .generic .. => given.mapM (convert false)
        | _ => pure given
      let given ← unpacked given
      let given ← slots.foldlM (prepared slots) given
      if given.length ≠ slots.length then throw .unsuited
      else
        let parts ← substituted fuel type (slots.zip given) (openParts type)
        rebuild type parts
where
  /-- What stands in the place of a variable. -/
  placed? (store : Store) (given : List (Value × Value)) (value : Value) : Option Value :=
    (given.find? fun (name, _) => store.equal name value).map Prod.snd
  /-- The parts of a type with types in the places of its variables. -/
  substituted (fuel : Nat) (type : Value) (given : List (Value × Value)) (parts : List Value) :
      Action (List Value) := do
    let isFunction := match type with
      | .generic "Callable" _ => true
      | _ => false
    let store ← get
    let lists ← parts.mapM fun part => do
      let new ← match part with
        | .variable kind .. =>
          match placed? store given part with
          | some value => inPlace kind value
          | none => throw .noKey
        | part =>
          match freeVariables store part with
          | [] => pure part
          | inner =>
            let arguments := inner.flatMap fun name =>
              match name, placed? store given name with
              | .variable .types .., some (.tuple types) => types
              | _, some value => [value]
              | _, none => []
            reapplyIn fuel part arguments
      match part, new with
      | part, .tuple types =>
        if isFunction || isUnpackedTypes part then return types
        else
          match part with
          | .tuple inner => return [.tuple (← substitutedTuple store given inner)]
          | _ => return [.tuple types]
      | _, new => return [new]
    return lists.flatten
  /-- The types of parameters with types in the places of variables. -/
  substitutedTuple (store : Store) (given : List (Value × Value)) (parts : List Value) :
      Action (List Value) :=
    parts.mapM fun part =>
      match part with
      | .variable kind .. =>
        match placed? store given part with
        | some value => inPlace kind value
        | none => throw .noKey
      | part => pure part

/-- A generic type with types in the places of its variables. -/
def reapply (type index : Value) : Action Value :=
  if isUnpackedTypes type then return index
  else reapplyIn Store.depthLimit type index.arguments

end TypeForm

end TypeHint

end CallPlan
