import CallPlan.TypeHint.Stream

/-!
# CallPlan.TypeHint.Meaning

What the type hints of a function say.

* The defaults and the type hints of a function are evaluated when it is made (`declare`), one after
  the other, so that a name that one of them gives is known to the next. Types that they name in
  quotes are looked for only when it is asked what the type hints say (`meanings`).
* Marks of a type are left aside, and of a type with arguments the class counts: the classes of
  plain values stand for JSON types (`jsonTypes`).
-/

namespace CallPlan

namespace TypeHint

/-- The classes that stand for a JSON type. -/
def jsonTypes : List (String × String) :=
  [("str", "string"), ("int", "integer"), ("float", "number"), ("bool", "boolean"),
    ("dict", "object"), ("list", "array")]

/-- How deeply calls may stand in one another. -/
def callLimit : Nat := 900

/-- A value from outside. -/
def ofJson : Json → Action Value
  | .null => return .nothing
  | .bool b => return .bool b
  | .num (.int n) => return .int n
  | .num (.float x) => return .float x
  | .str s => return .text s
  | .arr _ => Value.list []
  | .obj _ => Value.table []

/-- A function with its type hints evaluated. -/
structure Declared where
  /-- The type hints by the names of their parameters, in the order of their evaluation. -/
  hints : List (String × Value)
  /-- The defaults by the names of their parameters. -/
  defaults : List (String × Value)
  /-- The defaults from outside, by their places. -/
  given : List Json
  store : Store
  deriving Inhabited

namespace Declared

/-- The machine for the type hints of a function. -/
def machineFor (given : List Json) : Machine :=
  machine (fun place => ofJson ((given[place]?).getD .null)) callLimit

/-- The name of the result among the type hints. -/
def resultName : String := "return"

/-- The expressions of a header in the order in which they are evaluated: the defaults, and then the
type hints. -/
def ordered (header : Header) : List (String × Expr) × List (String × Expr) :=
  let ofKinds (kinds : List ParameterKind) : List HeaderParameter :=
    header.parameters.filter fun p => kinds.contains p.kind
  let defaults (parameters : List HeaderParameter) : List (String × Expr) :=
    parameters.filterMap fun p => p.default.map ((p.name, ·))
  let hints (kind : ParameterKind) : List (String × Expr) :=
    (ofKinds [kind]).filterMap fun p => p.hint.map ((p.name, ·))
  (defaults (ofKinds [.positional, .ordinary]) ++ defaults (ofKinds [.named]),
    hints .ordinary ++ hints .positional ++ hints .rest ++ hints .named ++ hints .extras ++
      header.result.toList.map ((resultName, ·)))

/-- The function that a header is one of, under a name. -/
def ofHeader (name : String) (given : List Json) (header : Header) : Except Fault Declared :=
  let m := machineFor given
  let evaluated (exprs : List (String × Expr)) : Action (List (String × Value)) :=
    exprs.mapM fun (name, expr) => do
      let value ← m.eval [] expr
      let items ← if Machine.isStar expr then m.unpackedItems value 1 none else pure [value]
      return (name, items.headD .nothing)
  let (defaults, hints) := ordered header
  let action : Action (List (String × Value) × List (String × Value)) := do
    let defaults ← evaluated defaults
    let hints ← evaluated hints
    putEntry globalAddress (.text name) (.function ("typing." ++ name))
    return (defaults, hints)
  match action.run Names.store with
  | .ok (defaults, hints) store => .ok ⟨hints, defaults, given, store⟩
  | .error fault _ => .error fault

end Declared

namespace Meaning

variable (m : Machine)

/-- The types that a class with arguments names in quotes. -/
def unquoted (value : Value) : Action Value := do
  match ← value.plain with
  | .text _ => TypeForm.convert false value
  | _ => return value

/-- Whether values are the same as others. -/
def areSame (store : Store) (values others : List Value) : Bool :=
  store.equal (.tuple values) (.tuple others)

/-- A class with arguments made again of its origin and its arguments. -/
def remade (origin : Value) (parts : List Value) (isUnpacked : Bool) : Action Value := do
  let store ← get
  let isCallable := match origin with
    | .type "Callable" => !(parts.length = 2 && TypeForm.isParameters store (parts.headD .nothing))
    | _ => false
  let type ← m.item origin (if isCallable then
      .tuple [.tuple parts.dropLast, parts.getLastD .nothing] else .tuple parts)
  if isUnpacked then TypeForm.applyForm "Unpack" type else return type

/-- A type with the types that it names in quotes; a step of fuel for each level of the type. Names
in quotes within which a type is looked for stand for themselves. -/
def resolve : (fuel : Nat) → (within : List String) → Value → Action Value
  | 0, _, _ => throw .tooDeep
  | fuel + 1, within, value => do
    match value with
    | .forward text asForm =>
      if within.contains text then return value
      else
        let expr ← Value.lift (quotedExpression text)
        let type ← TypeForm.check asForm (← m.eval [] expr)
        resolve fuel (text :: within) type
    | .applied origin parts isUnpacked => do
      let type ← remade m origin (← parts.mapM unquoted) isUnpacked
      let parts := TypeForm.openParts type
      let made ← parts.mapM (resolve fuel within)
      if areSame (← get) made parts then return type
      else
        match type with
        | .applied origin _ _ => return .applied origin made false
        | type => TypeForm.rebuild type made
    | .generic .. | .choice _ => do
      let parts := TypeForm.openParts value
      let made ← parts.mapM (resolve fuel within)
      if areSame (← get) made parts then return value else TypeForm.rebuild value made
    | value => return value

/-- A type without the marks on it and within it; a step of fuel for each level of the type. -/
def plain : (fuel : Nat) → Value → Action Value
  | 0, _ => throw .tooDeep
  | fuel + 1, value => do
    match value with
    | .generic "Annotated" (type :: _) | .generic "Required" (type :: _)
    | .generic "NotRequired" (type :: _) => plain fuel type
    | .generic .. | .applied .. | .choice _ => do
      let parts := TypeForm.openParts value
      let made ← parts.mapM (plain fuel)
      if areSame (← get) made parts then return value
      else
        match value with
        | .applied origin _ _ => return .applied origin made false
        | value => TypeForm.rebuild value made
    | value => return value

/-- A type hint as a type. -/
def asType (value : Value) : Action Value := do
  match value, ← value.plain with
  | .nothing, _ => return .noneType
  | _, .text _ => TypeForm.convert false value
  | value, _ => return value

/-- How deep types stand in one another at most. -/
def depthLimit : Nat := 400

/-- The JSON type for which a type stands, if there is one. -/
def jsonType? (type : Value) : Action (Option String) := do
  let origin := (← m.attribute? type "__origin__").getD type
  Value.hashed [origin]
  match origin with
  | .type name => return List.lookup name jsonTypes
  | _ => return none

end Meaning

namespace Declared

/-- The JSON types for which the type hints of a function stand, by the names of its parameters. -/
def meanings (declared : Declared) (parameters : List String) :
    Except Fault (List (String × Option String)) :=
  let m := machineFor declared.given
  let action : Action (List (String × Option String)) := do
    let resolved ← declared.hints.mapM fun (name, value) => do
      return (name, ← Meaning.resolve m Meaning.depthLimit [] (← Meaning.asType value))
    let plain ← resolved.mapM fun (name, type) => do
      return (name, ← Meaning.plain Meaning.depthLimit type)
    parameters.mapM fun name => do
      match List.lookup name plain with
      | some type => return (name, ← Meaning.jsonType? m type)
      | none => return (name, none)
  match action.run declared.store with
  | .ok types _ => .ok types
  | .error fault _ => .error fault

end Declared

end TypeHint

end CallPlan
