import CallPlan.Failure
import CallPlan.Json.Literal
import CallPlan.TypeHint.Meaning

/-!
# CallPlan.Tool.Signature

The parameters of a tool: what makes a function of them, the schema they amount to, and how the
arguments of a call, which all come under names, are bound to them.

* The parameters of a function are those of its header, in which names and type hints stand as they
  are given (`headerText`): what a type hint says beyond its own parameter counts as well.
* A function can be made of a header that is written like one and whose type hints have values
  (`declare`). The types that type hints name in quotes are looked for only for the schema.
* An argument that no parameter takes is a mismatch unless a parameter collects such arguments; so
  is a parameter without argument and default. Superfluous arguments are found first, then missing
  ones, first those of parameters that also take arguments by position.
* Bound arguments stand in the order of the parameters.
-/

namespace CallPlan

/-! ## Parameters -/

/-- A parameter as it is declared. -/
structure DeclaredParameter where
  name : String
  kind : ParameterKind
  /-- The type hint, as it is written. -/
  typeText : Option String
  default : Option Json
  deriving DecidableEq, Inhabited

/-- A parameter of a function. -/
structure Parameter where
  name : String
  kind : ParameterKind
  default : Option Json
  deriving DecidableEq, Inhabited

/-- Why arguments do not fit the parameters. -/
inductive Mismatch where
  | unexpected (name : String)
  /-- Arguments come under names that are taken by position alone. -/
  | byPosition (names : List String)
  | missing (names : List String)
  | missingNamed (names : List String)
  deriving DecidableEq, Inhabited

namespace Mismatch

/-- Names in quotes, listed with commas and a final `and`. -/
def listed (names : List String) : String :=
  match (names.map fun n => String.ofList (Text.quoted n)).reverse with
  | [] => ""
  | [only] => only
  | [second, first] => first ++ " and " ++ second
  | last :: before => ", ".intercalate before.reverse ++ ", and " ++ last

/-- How many arguments of a kind are missing, and which. -/
def missingText (kind : String) (names : List String) : String :=
  "missing " ++ toString names.length ++ " required " ++ kind ++ " argument" ++
    (if names.length = 1 then "" else "s") ++ ": " ++ listed names

/-- What a mismatch of the arguments of a function says. -/
def message (function : String) (mismatch : Mismatch) : String :=
  function ++ "() " ++
    match mismatch with
    | .unexpected name => "got an unexpected keyword argument '" ++ name ++ "'"
    | .byPosition names =>
      "got some positional-only arguments passed as keyword arguments: '" ++
        ", ".intercalate names ++ "'"
    | .missing names => missingText "positional" names
    | .missingNamed names => missingText "keyword-only" names

end Mismatch

/-- The parameters of a function, in order, and what its type hints come to. -/
structure Signature where
  parameters : List Parameter
  hints : TypeHint.Declared
  deriving Inhabited

namespace Signature

/-! ## Declaring parameters -/

/-- A parameter in a header; its default is named by its place. -/
def parameterText (place : Nat) (parameter : DeclaredParameter) : String :=
  let lead := match parameter.kind with
    | .rest => "*"
    | .extras => "**"
    | _ => ""
  lead ++ parameter.name ++ (parameter.typeText.elim "" (": " ++ ·)) ++
    (if parameter.default.isSome then " = \x00" ++ toString place else "")

/-- The parameters of a header, of which those after a star take arguments under their names
alone. -/
def parameterTexts (hasStar : Bool) : (place : Nat) → List DeclaredParameter → List String
  | _, [] => []
  | place, parameter :: rest =>
    let text := parameterText place parameter
    if parameter.kind = .named && !hasStar then
      "*" :: text :: parameterTexts true (place + 1) rest
    else text :: parameterTexts (hasStar || parameter.kind = .rest) (place + 1) rest

/-- The header of a function. -/
def headerText (parameters : List DeclaredParameter) : String :=
  "(" ++ ", ".intercalate (parameterTexts false 0 parameters) ++ "):"

/-- The header that parameters are written like. -/
def headerOf (parameters : List DeclaredParameter) : Except TypeHint.Fault TypeHint.Header :=
  let texts := parameters.flatMap fun p => p.name :: p.typeText.toList
  if !texts.all Text.isPaired then .error ⟨"UnicodeEncodeError", ""⟩
  else if texts.any (·.toList.contains '\x00') then
    .error (.badValue "source code string cannot contain null bytes")
  else
    match TypeHint.Grammar.header? (Text.chars (headerText parameters).toList) with
    | some header => if header.isSound then .ok header else .error .malformed
    | none => .error .malformed

/-- A value as it is given back from a call. -/
def jsonOf : TypeHint.Value → Json
  | .bool b => .bool b
  | .int n => .num (.int n)
  | .float x => .num (.float x)
  | .text s => .str s
  | _ => .null

/-- The name under which every function is made. -/
def functionName : String := "tool_fn"

/-- A failure to make a function, or to tell what its type hints say. -/
def failure (fault : TypeHint.Fault) : Failure := .foreign fault.kind fault.message

/-- The parameters of a function that is made of declared ones. -/
def declare (parameters : List DeclaredParameter) : Except Failure Signature := do
  let header ← (headerOf parameters).mapError failure
  let given := parameters.map fun p => p.default.getD .null
  let hints ← (TypeHint.Declared.ofHeader functionName given header).mapError failure
  let made := header.parameters.map fun p =>
    let default := match p.default with
      | none => none
      | some (.given place) => some ((given[place]?).getD .null)
      | some _ => (List.lookup p.name hints.defaults).map jsonOf
    ⟨p.name, p.kind, default⟩
  return ⟨made, hints⟩

/-- Ordinary parameters, each with the name of its class. -/
def plain (parameters : List (String × String)) : Signature :=
  ⟨parameters.map fun (name, _) => ⟨name, .ordinary, none⟩,
    { hints := parameters.map fun (name, type) => (name, .type type)
      defaults := []
      given := []
      store := TypeHint.Names.store }⟩

/-! ## The schema of the arguments -/

/-- The schema of one argument. -/
def argumentSchema (type : Option String) : Json :=
  .obj (type.toList.map fun word => ("type", .str word))

/-- The schema of the arguments: an object with a property for each parameter, of which those
without default are required. A reserved word is no parameter. -/
def schema (signature : Signature) : Except Failure Members := do
  let isWord (p : Parameter) : Bool :=
    TypeHint.Token.reserved.contains p.name && p.kind ≠ .positional
  match signature.parameters.find? isWord with
  | some parameter =>
    throw (.unsuitable ("'" ++ parameter.name ++ "' is not a valid parameter name"))
  | none =>
    let types ← (signature.hints.meanings (signature.parameters.map (·.name))).mapError failure
    return [("type", .str "object"),
      ("properties", .obj (types.map fun (name, type) => (name, argumentSchema type))),
      ("required", .arr ((signature.parameters.filter fun p => p.default.isNone).map fun p =>
        .str p.name))]

/-! ## Binding arguments -/

/-- Whether a parameter takes an argument under its own name. -/
def isAddressable (parameter : Parameter) : Bool :=
  parameter.kind = .ordinary || parameter.kind = .named

/-- Whether some parameter takes the argument of a name under that name. -/
def accepts (signature : Signature) (name : String) : Bool :=
  signature.parameters.any fun p => isAddressable p && p.name = name

/-- The names of the parameters of some kinds that have neither argument nor default. -/
def missing (signature : Signature) (kinds : List ParameterKind) (arguments : Members) :
    List String :=
  (signature.parameters.filter fun p =>
    kinds.contains p.kind && p.default.isNone &&
      (p.kind = .positional || !arguments.contains p.name)).map (·.name)

/-- What a parameter is bound to. -/
def boundTo (superfluous arguments : Members) (parameter : Parameter) : Json :=
  match parameter.kind with
  | .rest => .arr []
  | .extras => .obj superfluous
  | .positional => parameter.default.getD .null
  | _ => (arguments.get? parameter.name).getD (parameter.default.getD .null)

/-- The mismatch that is found first, if there is one. -/
def mismatch? (signature : Signature) (arguments superfluous : Members) : Option Mismatch :=
  match superfluous with
  | (name, _) :: _ =>
    if signature.parameters.any (·.kind = .extras) then missing?
    else
      let placed := signature.parameters.filter fun p =>
        p.kind = .positional && superfluous.contains p.name
      some (if placed.isEmpty then .unexpected name else .byPosition (placed.map (·.name)))
  | [] => missing?
where
  /-- The parameters that are found to lack an argument. -/
  missing? : Option Mismatch :=
    match signature.missing [.positional, .ordinary] arguments,
      signature.missing [.named] arguments with
    | [], [] => none
    | [], names => some (.missingNamed names)
    | names, _ => some (.missing names)

/-- The arguments of a call bound to the parameters. -/
def bind (signature : Signature) (arguments : Members) : Except Mismatch Members :=
  let superfluous := arguments.filter fun (name, _) => !signature.accepts name
  match signature.mismatch? arguments superfluous with
  | some mismatch => .error mismatch
  | none => .ok (signature.parameters.map fun p => (p.name, boundTo superfluous arguments p))

end Signature

end CallPlan
