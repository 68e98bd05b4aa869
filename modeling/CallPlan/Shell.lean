import CallPlan.Shell.Transcript
import CallPlan.Settings
import CallPlan.Http.Exchange
import CallPlan.Text.Blank

/-!
# CallPlan.Shell

The shell: lines of the user become messages to the service, and the responses are shown.

* While the service cannot be connected to, a message is sent again after a pause, which doubles
  from one attempt to the next. Any other failure of the connection, and any response that does not
  report success, becomes a reply that says so.
* A terminal may be unable to show a text, and a pause may be too long to be made; either ends what
  asked for it.
* The shell ends with its input or with a line that asks for it.
-/

namespace CallPlan

/-- What the shell needs of the world it runs in. -/
structure Console (σ : Type) where
  /-- Shows a text, if that is possible. -/
  print : String → σ → Except Failure Unit × σ
  client : Client σ
  /-- Waits a number of seconds, if these are not too many. -/
  pause : Binary64 → σ → Except Failure Unit × σ

namespace Shell

variable {σ : Type}

/-! ## Asking the service -/

/-- How long to wait for the service, in seconds. -/
def patience : Json := .float (.ofInt 120)

/-- How often a message is sent at most, unless something else is asked for. -/
def attempts : Int := 5

/-- The pause after a failed attempt, counted from zero: half a second, doubled each time. It is half
of a power of two, which must itself be within the range of numbers. -/
def pauseAfter (attempt : Nat) : Except Failure Binary64 :=
  if (Binary64.ofRatio false (Nat.pow 2 attempt) 1).isFinite then
    .ok (.ofRatio false (Nat.pow 2 attempt) 2)
  else .error .beyondRange

/-- A response that holds a reply alone. -/
def reply (text : String) : Json := .obj [("reply", .str text)]

/-- Shows a complaint, which is the reply as well. -/
def complain (console : Console σ) (text : String) (world : σ) : Except Failure Json × σ :=
  let (shown, world) := console.print (Colour.red.line text) world
  (shown.map fun () => reply text, world)

/-- The failure of a response that is not JSON. -/
def unreadable (response : HttpReply) (e : JsonError) : Failure :=
  .notJson e.cause (e.message response.body)

/-- The detail that a response without success gives, or else what its status says. -/
def detail (depth : Nat) (url : Url) (response : HttpReply) : Except Failure Json :=
  match response.json depth with
  | .ok (.obj ms) => .ok ((Members.get? ms "detail").getD (.str (response.statusMessage url)))
  | .ok _ => .error (.shape .operation)
  | .error ⟨.tooDeep, offset⟩ => .error (unreadable response ⟨.tooDeep, offset⟩)
  | .error _ => .ok (.str (response.statusMessage url))

/-- What a response of the service amounts to. -/
def conclude (console : Console σ) (url : Url) (response : HttpReply) (world : σ) :
    Except Failure Json × σ :=
  if Http.isSuccess response.status then
    match response.json console.client.depth with
    | .ok value => (.ok value, world)
    | .error e => (.error (unreadable response e), world)
  else
    match detail console.client.depth url response with
    | .error failure => (.error failure, world)
    | .ok cause =>
      match cause.spelled Json.display with
      | .ok cause => complain console ("API error: " ++ cause) world
      | .error long => (.error (.ofLongNumber long), world)

/-- The complaint about a connection that failed. -/
def connectionComplaint (message : String) : String := "Error connecting to API: " ++ message

/-- Posts a document until the service is reached, at most `remaining` times more. -/
def persist (console : Console σ) (address body : Json) (limit : Int) (attempt : Nat) :
    (remaining : Nat) → σ → Except Failure Json × σ
  | 0, world =>
    match (Json.int limit).spelled Json.display with
    | .ok limit => complain console ("Failed to connect to API after " ++ limit ++ " attempts") world
    | .error long => (.error (.ofLongNumber long), world)
  | remaining + 1, world =>
    match console.client.exchange patience address body world with
    | (.ok (url, response), world) => conclude console url response world
    | (.error (.broken message), world) => complain console (connectionComplaint message) world
    | (.error (.refused failure), world) | (.error (.failed failure), world) =>
      (.error failure, world)
    | (.error (.unreachable message), world) =>
      if remaining = 0 then complain console (connectionComplaint message) world
      else
        match pauseAfter attempt with
        | .error failure => (.error failure, world)
        | .ok seconds =>
          match console.pause seconds world with
          | (.ok (), world) => persist console address body limit (attempt + 1) remaining world
          | (.error failure, world) => (.error failure, world)

/-- The address of a path of the service, if it can be written. -/
def addressOf (settings : Settings) (path : Json) : Except LongNumber String := do
  let port ← settings.apiPort.spelled Json.display
  let path ← path.spelled Json.display
  return "http://localhost:" ++ port ++ path

/-- Posts a document to a path of the service: the value of its response. -/
def ask (console : Console σ) (settings : Settings) (path body : Json) (limit : Int)
    (world : σ) : Except Failure Json × σ :=
  match addressOf settings path with
  | .ok address => persist console (.str address) body limit 0 limit.toNat world
  | .error long => (.error (.ofLongNumber long), world)

/-! ## Lines of the user -/

/-- What is shown when the shell starts. -/
def banner : String :=
  Colour.green.line "\n🔮 toolplan shell - type 'exit' or 'quit' (or Ctrl+C) to exit"

/-- What is shown before a line of the user. -/
def prompt : String := Colour.blue.paint "\n🧑 You: "

/-- Whether a line asks to end the shell. -/
def isFarewell (line : String) : Bool :=
  let word := Text.lower (Text.strip line)
  word = "exit" || word = "quit"

/-- Shows texts one after the other, up to the first that cannot be shown. -/
def printAll (console : Console σ) : List String → σ → Except Failure Unit × σ
  | [], world => (.ok (), world)
  | text :: rest, world =>
    match console.print text world with
    | (.ok (), world) => printAll console rest world
    | (.error failure, world) => (.error failure, world)

/-- Sends a line to the service and shows the response. -/
def converse (console : Console σ) (settings : Settings) (line : String) (world : σ) :
    Except Failure Unit × σ :=
  let body := .obj [("message", .str (Text.strip line))]
  match ask console settings (.str "/agent") body attempts world with
  | (.error failure, world) => (.error failure, world)
  | (.ok response, world) =>
    let (shown, failure) := Transcript.ofResponse response
    match printAll console shown world, failure with
    | (.ok (), world), some failure => (.error failure, world)
    | printed, _ => printed

/-- The shell after its banner, on the lines of its input. -/
def loop (console : Console σ) (settings : Settings) : List String → σ → Except Failure Unit × σ
  | [], world => console.print prompt world
  | line :: rest, world =>
    match console.print prompt world with
    | (.error failure, world) => (.error failure, world)
    | (.ok (), world) =>
      if isFarewell line then (.ok (), world)
      else
        match converse console settings line world with
        | (.ok (), world) => loop console settings rest world
        | (.error failure, world) => (.error failure, world)

/-- The lines of an input, without their ends; the last one may lack an end. -/
def lines (input : String) : List String :=
  let parts := (input.toList.splitOnP (· = '\n')).map String.ofList
  if parts.getLast? = some "" then parts.dropLast else parts

/-- Runs the shell on an input. -/
def run (console : Console σ) (settings : Settings) (input : String) (world : σ) :
    Except Failure Unit × σ :=
  match console.print banner world with
  | (.ok (), world) => loop console settings (lines input) world
  | (.error failure, world) => (.error failure, world)

end Shell

end CallPlan
