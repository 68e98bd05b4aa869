import CallPlan.Registry
import CallPlan.Envelope
import CallPlan.Failure
import CallPlan.Tool.Signature

/-!
# CallPlan.Toolbox

Tools that run in this process.

* A `Toolbox` holds the functions under their names and, in a `RegistryStore`, their declarations.
  What a declaration leaves out is derived from the function. The function is put in place first: if
  its declaration then turns out not to be one, the function stays.
* A name that is no text is found out by the declaration, and so after the function is in place. Any
  value can be a name, other than an array or an object (`isName`), and equal numbers are one name.
* `Toolbox.run` gives what a function returns, or why there is nothing; `Toolbox.call` answers a
  call of a plan: values are put into an envelope with the context of the caller, and failures
  become error results. Only an output that cannot be written ends the call itself.
-/

namespace CallPlan

/-! ## Functions -/

/-- What a tool function returns. -/
inductive ToolOutput where
  | value (value : Json)
  | envelope (envelope : Envelope)
  | result (result : CallResult)
  deriving DecidableEq, Inhabited

/-- How a tool function fails. -/
inductive ToolFault where
  /-- It does not take arguments of these kinds. -/
  | arguments (message : String)
  | other (message : String)
  deriving DecidableEq, Inhabited

/-- A function that can be run as a tool. -/
structure ToolFunction where
  /-- The name by which complaints about arguments call it. -/
  name : String
  /-- The module that complaints about the arguments as a whole name before it. -/
  home : String
  doc : String
  signature : Signature
  /-- What it makes of arguments that have been bound to its parameters. -/
  body : Fresh → Members → Except ToolFault ToolOutput

/-- Why running a tool gave nothing. -/
inductive ToolError where
  /-- The tool is asked for by what is no name. -/
  | noName
  /-- The name has too many digits to be written. -/
  | longName (long : LongNumber)
  | unregistered (tool : String)
  | arguments (tool message : String)
  | failed (tool message : String)
  deriving DecidableEq, Inhabited

/-- What an error of a tool says. -/
def ToolError.message : ToolError → String
  | .noName => ""
  | .longName long => long.message
  | .unregistered tool => "Tool '" ++ tool ++ "' is not registered."
  | .arguments tool message => "Invalid arguments for tool '" ++ tool ++ "': " ++ message
  | .failed tool message => "Tool '" ++ tool ++ "' raised an error: " ++ message

/-- An error that names its tool, if the name can be written. -/
def ToolError.about (name : Json) (error : String → ToolError) : ToolError :=
  match name.spelled Json.display with
  | .ok name => error name
  | .error long => .longName long

/-- The failure that a tool gave nothing. -/
def ToolError.toFailure : ToolError → Failure
  | .noName => .shape .kind
  | .longName long => .ofLongNumber long
  | cause => .toolExecution cause.message

namespace ToolFunction

/-- What the arguments of a call are if they are not an object. -/
def kindOfArguments : Json → String
  | .null => "NoneType"
  | .bool _ => "bool"
  | .num (.int _) => "int"
  | .num (.float _) => "float"
  | .str _ => "str"
  | .arr _ => "list"
  | .obj _ => "dict"

/-- What is said about arguments that are not an object. -/
def noMapping (function : ToolFunction) (arguments : Json) : String :=
  function.home ++ "." ++ function.name ++ "() argument after ** must be a mapping, not " ++
    kindOfArguments arguments

/-- Runs a function on the arguments of a call; null stands for none. -/
def apply (function : ToolFunction) (fresh : Fresh) (arguments : Json) :
    Except ToolFault ToolOutput :=
  let onMembers (members : Members) : Except ToolFault ToolOutput :=
    match function.signature.bind members with
    | .error mismatch => .error (.arguments (mismatch.message function.name))
    | .ok bound => function.body fresh bound
  match arguments with
  | .obj members => onMembers members
  | .null => onMembers []
  | arguments => .error (.arguments (function.noMapping arguments))

end ToolFunction

/-! ## Declarations -/

/-- What is said about a tool when it is registered; null, and a schema that says nothing, stand for
what is left out. -/
structure ToolDeclaration where
  name : Json
  description : Json := .null
  input : Json := .null
  output : Json := .null
  /-- The schema of the artifact, for when no schema of the output is given. -/
  artifact : Json := .null
  deriving Inhabited

namespace ToolDeclaration

/-- A declaration completed from its function: the description is the function's documentation, the
arguments are its parameters, and the output is an envelope. -/
def schema (declaration : ToolDeclaration) (function : ToolFunction) :
    Except Failure ToolSchema := do
  let description :=
    if declaration.description = .null then .str (Text.strip function.doc)
    else declaration.description
  let input ←
    if declaration.input.isVoid then function.signature.schema.map Json.obj
    else pure declaration.input
  let output :=
    if declaration.output.isVoid then .obj (Wrapped.outputSchema declaration.artifact)
    else declaration.output
  let given := .obj [("name", declaration.name), ("description", description),
    ("input_schema", input), ("output_schema", output)]
  match ToolSchema.check given with
  | .ok schema => return schema
  | .refused issues => throw (.invalid issues)

end ToolDeclaration

/-! ## Names of functions -/

namespace ToolName

/-- Whether a value can be a name. -/
def isName : Json → Bool
  | .arr _ | .obj _ => false
  | _ => true

/-- The numerator and the denominator of a number. -/
def ratio? : Json → Option (Int × Nat)
  | .bool b => some (if b then 1 else 0, 1)
  | .num (.int n) => some (n, 1)
  | .num (.float x) => x.toRatio?
  | _ => none

/-- Whether two values are one name. -/
def isSame (a b : Json) : Bool :=
  match ratio? a, ratio? b with
  | some (p, q), some (r, s) => decide (p * s = r * q)
  | _, _ => decide (a = b)

/-- Names in increasing order: texts alone or numbers alone have one. -/
def sorted (names : List Json) : Except Failure (List Json) :=
  let text? : Json → Option String
    | .str s => some s
    | _ => none
  match names, names.mapM text?, names.mapM ratio? with
  | [name], _, _ => .ok [name]
  | _, some texts, _ => .ok ((Text.sorted texts).map .str)
  | _, _, some ratios =>
    .ok (((names.zip ratios).mergeSort fun (_, p, q) (_, r, s) =>
      decide (p * s ≤ r * q)).map Prod.fst)
  | _, _, _ => .error (.shape .kind)

end ToolName

/-! ## Toolboxes -/

/-- Functions under their names, in the order of registration, and their declarations. -/
structure Toolbox where
  functions : List (Json × ToolFunction)
  store : RegistryStore

namespace Toolbox

/-- No tools. -/
def empty : Toolbox := ⟨[], .ofRegistry .empty⟩

/-- The function under a name. -/
def find? (box : Toolbox) (name : Json) : Option ToolFunction :=
  (box.functions.find? fun (n, _) => ToolName.isSame n name).map Prod.snd

/-- The declarations at present. -/
def registry (box : Toolbox) : Registry := box.store.current

/-- The names of the functions in increasing order. -/
def names (box : Toolbox) : Except Failure (List Json) :=
  ToolName.sorted (box.functions.map Prod.fst)

/-- The failure of a registration under a name that is taken. -/
def duplicate (name : Json) : Failure :=
  match name.spelled Json.display with
  | .ok name => .duplicateTool name
  | .error long => .ofLongNumber long

/-- Registers a function under a name that is free. -/
def register (box : Toolbox) (declaration : ToolDeclaration) (function : ToolFunction) :
    Except Failure ToolSchema × Toolbox :=
  if !ToolName.isName declaration.name then (.error (.shape .kind), box)
  else if (box.find? declaration.name).isSome then
    (.error (duplicate declaration.name), box)
  else
    let box := { box with functions := box.functions ++ [(declaration.name, function)] }
    match declaration.schema function with
    | .ok schema => (.ok schema, { box with store := box.store.register schema })
    | .error failure => (.error failure, box)

/-- Removes a function and its declaration; an unknown name changes nothing. -/
def unregister (box : Toolbox) (name : Json) : Except Failure Unit × Toolbox :=
  if ToolName.isName name then
    let store := match name with
      | .str name => box.store.unregister name
      | _ => box.store
    (.ok (), ⟨box.functions.filter fun (n, _) => !ToolName.isSame n name, store⟩)
  else (.error (.shape .kind), box)

/-- Runs a tool on arguments. -/
def run (box : Toolbox) (fresh : Fresh) (name arguments : Json) : Except ToolError ToolOutput :=
  if !ToolName.isName name then .error .noName
  else
    match box.find? name with
    | none => .error (.about name .unregistered)
    | some function =>
      match function.apply fresh arguments with
      | .ok output => .ok output
      | .error (.arguments message) => .error (.about name (.arguments · message))
      | .error (.other message) => .error (.about name (.failed · message))

end Toolbox

/-! ## Calls -/

/-- The context of those on whose behalf tools are run; it is checked when an output is stamped with
it. -/
structure Caller where
  contextId : Json
  userId : Json
  traceId : Json
  deriving DecidableEq, Inhabited

/-- The metadata of an output that a caller gets from a tool. -/
def Caller.metadata (caller : Caller) (fresh : Fresh) (tool : Json) : Except Failure Metadata :=
  let given := .obj [("context_id", caller.contextId), ("trace_id", caller.traceId),
    ("user_id", caller.userId), ("tool_name", tool)]
  (Metadata.check .value fresh given).toExcept.mapError .invalid

namespace ToolOutput

/-- The result that carries an envelope, if it can be written: it may not be nested too deep, no
surrogate may stand alone in a key, and no number may have too many digits. -/
def ofEnvelope (envelope : Envelope) : Except Failure CallResult :=
  if envelope.isWritable then
    match envelope.dump.unencodableKey? with
    | some message => .error (.unencodable message)
    | none => envelope.toResult.mapError .ofLongNumber
  else .error (.unsuitable Json.tooDeepText)

/-- An output as the result of a call: results and envelopes stand for themselves, also an envelope
that comes as a plain value; any other value is put into an envelope of the given identifier. -/
def toResult (output : ToolOutput) (artifactId : String) (metadata : Except Failure Metadata) :
    Except Failure CallResult :=
  match output with
  | .result r => .ok r
  | .envelope e => ofEnvelope e
  | .value v =>
    if Wrapped.isWrapped v then
      ((v.spelled Json.text).map fun text => ⟨v, [.ofText text], false⟩).mapError .ofLongNumber
    else metadata.bind fun metadata => ofEnvelope ⟨artifactId, v, metadata⟩

end ToolOutput

namespace Toolbox

/-- Answers a call; a tool that fails is an error result. -/
def call (box : Toolbox) (caller : Caller) (fresh : Fresh) (artifactId : String)
    (tool arguments : Json) : Except Failure CallResult :=
  match box.run fresh tool arguments with
  | .ok output => output.toResult artifactId (caller.metadata fresh tool)
  | .error .noName => .error (.shape .kind)
  | .error (.longName long) => .error (.ofLongNumber long)
  | .error e => .ok (.error e.message)

/-! ## The echo tool -/

/-- Gives its text back. -/
def echo : ToolFunction where
  name := "echo_tool"
  home := "toolplan.tools"
  doc := "Echo the input text back to the caller."
  signature := .plain [("text", "str")]
  body _ bound := .ok (.value (.obj bound))

/-- The declaration of the echo tool. -/
def echoDeclaration : ToolDeclaration where
  name := .str "echo"
  artifact :=
    .obj [("type", .str "object"), ("properties", .obj [("text", Wrapped.textSchema)])]

/-- The toolbox that holds the echo tool alone. -/
def standard : Toolbox := (empty.register echoDeclaration echo).2

end Toolbox

end CallPlan
