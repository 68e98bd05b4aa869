import CallPlan.Service.Message
import CallPlan.Toolbox
import CallPlan.Planner.Backend

/-!
# CallPlan.Service

The service: how requests are answered.

* There are five endpoints, and pages that describe them. A path with slashes too many at its end is
  redirected to the path without them. A known path with another method is refused, an unknown path
  is not found.
* The body of a posted request is a JSON object. What is wrong with it is answered as a list of
  issues, each located below `body`.
* A response is a JSON document in UTF-8. Where a value has no such form, the answer is an internal
  error.
* A message is answered by a turn with the registered tools. Failures of the model and of the tool
  runtime have statuses of their own; any other failure is an internal error about which nothing is
  said.
-/

namespace CallPlan

/-! ## Requests and responses -/

/-- A request to the service. -/
structure ServiceRequest where
  /-- The method, in capitals. -/
  method : String
  path : String
  body : List UInt8
  deriving DecidableEq, Inhabited

namespace ServiceRequest

/-- The address of the service for its clients. -/
def base : Url := { scheme := "http", host := "testserver".toList }

/-- The request that a client makes of a target, an address or its path and query alone. -/
def ofTarget (method target : String) (body : List UInt8) : Except Failure ServiceRequest := do
  let url := Url.below base (← (Url.parse target).mapError fun fault => .badAddress fault.message)
  let path := Percent.unquote url.path
  return ⟨Text.asciiUpper method, if path.isEmpty then "/" else String.ofList path, body⟩

end ServiceRequest

/-- What a response holds. -/
inductive Content where
  | json (value : Json)
  | text (text : String)
  deriving DecidableEq, Inhabited

/-- A response of the service. -/
structure ServiceResponse where
  status : Nat
  content : Content
  deriving DecidableEq, Inhabited

namespace ServiceResponse

/-- The answer when something failed inside. -/
def internalError : ServiceResponse := ⟨500, .text "Internal Server Error"⟩

/-- A response with a document, if it can be encoded. -/
def document (status : Nat) (value : Json) : ServiceResponse :=
  if value.isPaired then ⟨status, .json value⟩ else internalError

/-- The answer to a request that succeeded; numbers that are not finite are null in it. -/
def success (value : Json) : ServiceResponse := document 200 value.finiteOnly

/-- A refusal with a reason. -/
def refusal (status : Nat) (detail : Json) : ServiceResponse :=
  document status (.obj [("detail", detail)])

/-- The refusal of a request; to one that asks for the head of a response alone it has no
content. -/
def refuse (request : ServiceRequest) (status : Nat) (detail : String) : ServiceResponse :=
  if request.method = "HEAD" then ⟨status, .text ""⟩ else refusal status (.str detail)

/-- The refusal of a body with issues, which are located below `body`. What an issue is about is a
part of the response, so it must have a written form. -/
def unprocessable (body : Json) (issues : List Issue) : ServiceResponse :=
  let subjects := issues.map fun i => Issue.subject body i.location
  if subjects.all fun value => value.isShort && value.isFinite && value.isPaired then
    refusal 422 (.arr (issues.map fun i => Issue.toJson ⟨i.kind, .key "body" :: i.location⟩))
  else internalError

/-- The answer to a request that should have been made of another path. -/
def redirect : ServiceResponse := ⟨307, .text ""⟩

/-- The answer to a turn that failed. -/
def ofFailure (failure : Failure) : ServiceResponse :=
  match failure with
  | .planText message => refusal 422 (.str message)
  | .planShape _ => refusal 422 (.str failure.message)
  | .planner message => refusal 502 (.str message)
  | .toolRuntime message => refusal 503 (.str message)
  | _ => internalError

end ServiceResponse

/-! ## Endpoints -/

/-- What the service can be asked for. -/
inductive Endpoint where
  | root
  | health
  | tools
  | validatePlan
  | agent
  deriving DecidableEq, Inhabited

namespace Endpoint

/-- All endpoints. -/
def all : List Endpoint := [root, health, tools, validatePlan, agent]

/-- The path of an endpoint. -/
def path : Endpoint → String
  | .root => "/"
  | .health => "/health"
  | .tools => "/tools"
  | .validatePlan => "/plans/validate"
  | .agent => "/agent"

/-- The method of an endpoint. -/
def method : Endpoint → String
  | .validatePlan | .agent => "POST"
  | _ => "GET"

/-- Whether a path is the one of a route; a line break may end it. -/
def leadsTo (path route : String) : Bool := path = route || path = route ++ "\n"

/-- The endpoint that a path leads to. -/
def ofPath? (path : String) : Option Endpoint :=
  all.find? fun endpoint => leadsTo path endpoint.path

/-- The paths of the pages that describe the endpoints. -/
def pages : List String := ["/openapi.json", "/docs", "/docs/oauth2-redirect", "/redoc"]

/-- Whether a path leads to an endpoint or a page. -/
def isKnown (path : String) : Bool := (ofPath? path).isSome || pages.any (leadsTo path)

/-- Whether a path has slashes at its end without which it would be known. -/
def isRedirected (path : String) : Bool :=
  let short := (path.toList.reverse.dropWhile (· = '/')).reverse
  path ≠ "/" && short.length < path.length && isKnown (String.ofList short)

end Endpoint

/-! ## Bodies -/

/-- Why a body cannot be read. -/
def ServiceResponse.unreadable (e : JsonError) : ServiceResponse :=
  match e.cause with
  | .longInteger _ | .tooDeep | .undecodable _ =>
    .refusal 400 (.str "There was an error parsing the body")
  | _ => .unprocessable .null [⟨.jsonInvalid, [.index e.offset]⟩]

/-- Reads the body of a request to a depth as a record, given its fields. -/
def ServiceRequest.read {α : Type} (request : ServiceRequest) (depth : Nat)
    (fields : Members → Checked α) : Except ServiceResponse α :=
  if request.body.isEmpty then .error (.unprocessable .null [⟨.missing, []⟩])
  else
    match Json.readSent depth request.body with
    | .error e => .error (.unreadable e)
    | .ok body =>
      match Record.objectOr .modelAttributesType fields body with
      | .ok record => .ok record
      | .refused issues => .error (.unprocessable body issues)

/-! ## The service -/

/-- What a service works with, in a world of any type. -/
structure Service (σ : Type) where
  /-- How many lists and objects with content may be open at a time in the body of a request. -/
  depth : Nat
  toolbox : Toolbox
  settings : Settings
  /-- The model to be asked, if one can be had. -/
  model : Except Failure (Model σ)
  now : σ → DateTime
  /-- The microseconds of a clock that never goes back. -/
  clock : σ → Int
  /-- Draws identifiers that nothing else has. -/
  draw : σ → (Nat → String) × σ

namespace Service

variable {σ : Type}

/-- The tools of a service as the host of a run for a caller. -/
def host (service : Service σ) (caller : Caller) : Host σ where
  now world := .ok (service.now world)
  clock := service.clock
  cancelled _ := false
  invoke tool arguments world :=
    let (ids, world) := service.draw world
    let fresh : Fresh := ⟨service.now world, ids 0⟩
    (service.toolbox.call caller fresh (ids 1) (.str tool) (.obj arguments), world)

/-- The caller of a message; what the message leaves open is taken from the settings. -/
def caller (service : Service σ) (request : MessageRequest) (traceId : String) : Caller where
  contextId := (request.contextId.map Json.str).getD service.settings.contextId
  userId := (request.userId.map Json.str).getD service.settings.userId
  traceId := .str traceId

/-- Answers a message with a turn. -/
def answer (service : Service σ) (request : MessageRequest) (world : σ) :
    ServiceResponse × σ :=
  let (ids, world) := service.draw world
  match service.model with
  | .error failure => (.ofFailure failure, world)
  | .ok model =>
    let who : Collaborators σ :=
      ⟨service.host (service.caller request (ids 0)), model, model, service.toolbox.registry⟩
    let tracker : Tracker Unit := .fresh (ids 1) (fun n => ids (n + 2)) none ()
    let (result, world, _) :=
      runTurn who (.str request.message) service.settings.turnTimeout tracker world
    match result with
    | .ok turn =>
      let reply := MessageReply.ofTurn turn
      (if reply.isWritable then .success reply.toJson else .internalError, world)
    | .error failure => (.ofFailure failure, world)

/-- The verdict on a plan. -/
def judge (service : Service σ) (request : PlanRequest) : ServiceResponse :=
  match request.plan with
  | .direct _ => .success Verdict.accepted.toJson
  | .tools calls =>
    match validate calls service.toolbox.registry with
    | .ok () => .success Verdict.accepted.toJson
    | .error (.violation v) => .success (Verdict.rejected v).toJson
    | .error (.unchecked _) => .internalError

/-- What an endpoint answers. -/
def atEndpoint (service : Service σ) (endpoint : Endpoint) (request : ServiceRequest) (world : σ) :
    ServiceResponse × σ :=
  match endpoint with
  | .root =>
    (.success (.obj [("message",
      .str "Welcome to the toolplan API! Use /docs for API documentation.")]), world)
  | .health => (.success (.obj [("status", .str "ok")]), world)
  | .tools =>
    let list := ToolList.ofRegistry service.toolbox.registry
    (if list.isWritable then .success list.toJson else .internalError, world)
  | .validatePlan =>
    match request.read service.depth (PlanRequest.checkFields .body) with
    | .ok asked => (service.judge asked, world)
    | .error response => (response, world)
  | .agent =>
    match request.read service.depth MessageRequest.checkFields with
    | .ok asked => service.answer asked world
    | .error response => (response, world)

/-- Answers a request that leads to no endpoint. -/
def handleOther (request : ServiceRequest) : ServiceResponse :=
  if Endpoint.pages.any (Endpoint.leadsTo request.path) then
    if request.method = "GET" || request.method = "HEAD" then ⟨200, .text ""⟩
    else .refuse request 405 "Method Not Allowed"
  else if Endpoint.isRedirected request.path then .redirect
  else .refuse request 404 "Not Found"

/-- Answers a request. -/
def handle (service : Service σ) (request : ServiceRequest) (world : σ) : ServiceResponse × σ :=
  match Endpoint.ofPath? request.path with
  | none => (handleOther request, world)
  | some endpoint =>
    if request.method = endpoint.method then service.atEndpoint endpoint request world
    else (.refuse request 405 "Method Not Allowed", world)

end Service

end CallPlan
