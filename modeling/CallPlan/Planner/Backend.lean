import CallPlan.Planner
import CallPlan.Settings
import CallPlan.Http.Exchange

/-!
# CallPlan.Planner.Backend

The services that models run on. For each: what it is asked for a completion, and what its reply
holds. One is a text generation server that is posted a document; the two others are reached through
client libraries, which are given options and return choices or blocks. What a choice holds should
be a text and is passed on as it is.
-/

namespace CallPlan

/-- A service that models run on. -/
inductive Backend where
  | tgi
  | openai
  | anthropic
  deriving DecidableEq, Inhabited

namespace Backend

/-- The service that a name in small letters stands for. -/
def ofName? (name : String) : Option Backend :=
  if name = "tgi" then some .tgi
  else if name = "openai" then some .openai
  else if name = "anthropic" then some .anthropic
  else none

/-- The service to use: the named one, or the one of the settings where the name says nothing. Case
does not matter. -/
def choose (name : Json) (settings : Settings) : Except Failure Backend :=
  match if name.isVoid then settings.planner else name with
  | .str target =>
    match ofName? (Text.lower target) with
    | some backend => .ok backend
    | none => .error (.unknownPlanner target)
  | _ => .error (.shape .operation)

end Backend

/-! ## The text generation server -/

namespace TextGeneration

/-- What the server is posted for a completion, if what it is asked can be written. -/
def document (settings : Settings) (instructions text : Json) : Except LongNumber Json := do
  let instructions ← instructions.spelled Json.display
  let text ← text.spelled Json.display
  return .obj
    [("inputs", .str (instructions ++ "\n\nUser: " ++ text ++ "\nAssistant:")),
      ("parameters", .obj
        [("max_new_tokens", settings.maxOutputTokens),
          ("temperature", settings.plannerTemperature),
          ("stop", .arr [.str "User:", .str "</s>"])])]

/-- The failure of a call that brought no reply. -/
def callFailure (message : String) : Failure :=
  .planner ("Error calling TGI endpoint: " ++ message)

/-- The failure of a reply that cannot be used. -/
def replyFailure (message : String) : Failure :=
  .planner ("Error processing TGI response: " ++ message)

/-- The text in the document of a reply. -/
def generatedText (document : Json) : Except Failure Json :=
  match document with
  | .obj ms =>
    match Members.get? ms "generated_text" with
    | some value =>
      match value.spelled Json.display with
      | .ok text => .ok (.str text)
      | .error long => .error (replyFailure long.message)
    | none => .error (replyFailure "'generated_text'")
  | _ => .error (.shape .kind)

/-- The text in what came back from the server, whose document is read to a depth. -/
def completion (depth : Nat) : Except Lapse (Url × HttpReply) → Except Failure Json
  | .error (.unreachable message) | .error (.broken message) => .error (callFailure message)
  | .error (.refused failure) => .error (replyFailure failure.message)
  | .error (.failed failure) => .error failure
  | .ok (url, reply) =>
    if Http.isSuccess reply.status then
      match reply.json depth with
      | .ok document => generatedText document
      | .error ⟨.tooDeep, _⟩ => .error (.notJson .tooDeep "")
      | .error e => .error (replyFailure (e.message reply.body))
    else .error (callFailure (reply.statusMessage url))

end TextGeneration

/-! ## Client libraries -/

/-- What a client library gives back: a reply, its own error, or a failure of another kind. -/
inductive ClientReply (α : Type) where
  | reply (value : α)
  | clientError (message : String)
  | failed (failure : Failure)
  deriving DecidableEq, Inhabited

/-- A message of a conversation with a model. -/
def chatMessage (role : String) (content : Json) : Json :=
  .obj [("role", .str role), ("content", content)]

namespace OpenAi

/-- The options of the client. -/
def clientOptions (settings : Settings) : Members :=
  [("api_key", settings.openaiKey), ("timeout", settings.requestTimeout)]

/-- The options of a completion. -/
def createOptions (settings : Settings) (instructions text : Json) (structured : Bool) :
    Members :=
  [("model", settings.openaiModel),
    ("messages", .arr [chatMessage "system" instructions, chatMessage "user" text]),
    ("temperature", settings.plannerTemperature),
    ("max_tokens", settings.maxOutputTokens)] ++
    (if structured then [("response_format", .obj [("type", .str "json_object")])] else [])

/-- What the first choice of a reply holds. -/
def completion : ClientReply (List Json) → Except Failure Json
  | .failed failure => .error failure
  | .clientError message => .error (.planner ("Error calling OpenAI: " ++ message))
  | .reply [] => .error (.shape .position)
  | .reply (first :: _) =>
    if first.isVoid then .error (.planner "Empty response from OpenAI") else .ok first

end OpenAi

/-- A block of a reply: its kind and its text, which may be there without saying anything. -/
structure ReplyBlock where
  kind : Option String
  text : Option (Option String)
  deriving DecidableEq, Inhabited

namespace Anthropic

/-- The options of the client. -/
def clientOptions (settings : Settings) : Members :=
  [("api_key", settings.anthropicKey), ("timeout", settings.requestTimeout)]

/-- The options of a completion. -/
def createOptions (settings : Settings) (instructions text : Json) : Members :=
  [("model", settings.anthropicModel), ("max_tokens", settings.maxOutputTokens),
    ("system", instructions), ("messages", .arr [chatMessage "user" text]),
    ("temperature", settings.plannerTemperature)]

/-- The texts of the text blocks of a reply. -/
def texts : List ReplyBlock → Except Failure (List (Option String))
  | [] => .ok []
  | block :: rest =>
    match block.kind, block.text with
    | none, _ => .error (.shape .operation)
    | some "text", none => .error (.shape .operation)
    | some "text", some text => (texts rest).map (text :: ·)
    | some _, _ => texts rest

/-- The texts of the text blocks of a reply, joined. -/
def completion : ClientReply (List ReplyBlock) → Except Failure Json
  | .failed failure => .error failure
  | .clientError message => .error (.planner ("Error calling Anthropic: " ++ message))
  | .reply blocks => do
    match ← texts blocks with
    | [] => throw (.planner "Anthropic response contained no text block")
    | found =>
      match found.mapM id with
      | some parts => return .str (String.join parts)
      | none => throw (.shape .kind)

end Anthropic

/-! ## Models -/

/-- The ways to the services, in a world of any type. -/
structure Services (σ : Type) where
  client : Client σ
  openai : (client create : Members) → σ → ClientReply (List Json) × σ
  anthropic : (client create : Members) → σ → ClientReply (List ReplyBlock) × σ

namespace Backend

variable {σ : Type}

/-- The model that runs on a service. -/
def model (backend : Backend) (services : Services σ) (settings : Settings) : Model σ where
  complete instructions text structured world :=
    match backend with
    | .tgi =>
      match TextGeneration.document settings instructions text with
      | .error long => (.error (.ofLongNumber long), world)
      | .ok document =>
        let (exchange, world) := services.client.exchange settings.requestTimeout
          settings.tgiEndpoint document world
        (TextGeneration.completion services.client.depth exchange, world)
    | .openai =>
      let (reply, world) := services.openai (OpenAi.clientOptions settings)
        (OpenAi.createOptions settings instructions text structured) world
      (OpenAi.completion reply, world)
    | .anthropic =>
      let (reply, world) := services.anthropic (Anthropic.clientOptions settings)
        (Anthropic.createOptions settings instructions text) world
      (Anthropic.completion reply, world)

end Backend

end CallPlan
