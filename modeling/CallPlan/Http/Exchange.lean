import CallPlan.Failure
import CallPlan.Http.Status
import CallPlan.Http.Url
import CallPlan.Json.Reader

/-!
# CallPlan.Http.Exchange

What a client sends and what comes back.

* `PostRequest.prepare` is what stands between a document and its being sent: the address must be
  one, and the document must have a written form.
* `Client.exchange` gives the reply to a document that is posted, or what kept it from coming: a
  fault of the connection, or a value that a client refuses on the way, such as a header that is not
  ASCII.
-/

namespace CallPlan

/-- A JSON document posted to an address. -/
structure PostRequest where
  url : Url
  body : Json
  deriving DecidableEq, Inhabited

/-- A reply with a status. -/
structure HttpReply where
  status : Nat
  body : List UInt8
  headers : Members := []
  deriving DecidableEq, Inhabited

/-- What kept a reply from coming. -/
inductive Lapse where
  /-- No connection could be made. -/
  | unreachable (message : String)
  /-- The connection failed in another way. -/
  | broken (message : String)
  /-- A value on the way was refused: how. -/
  | refused (failure : Failure)
  /-- Something else failed. -/
  | failed (failure : Failure)
  deriving DecidableEq, Inhabited

namespace PostRequest

/-- The style in which documents are sent. -/
def style : TextStyle := { TextStyle.spaced with comma := [','], colon := [':'] }

/-- What is wrong with a number that a document is to hold: it is not finite, or has too many
digits. -/
def numberFault? : Number → Option Failure
  | .float x =>
    if x.isFinite then none
    else some (.unsuitable "Out of range float values are not JSON compliant")
  | .int n => if Text.isShortNumber n then none else some (.ofLongNumber {})

/-- A request that can be sent. -/
def prepare (address : String) (body : Json) : Except Lapse PostRequest :=
  match Url.parse address with
  | .error fault => .error (.failed (.badAddress fault.message))
  | .ok url =>
    match body.numbers.findSome? numberFault? with
    | some failure => .error (.refused failure)
    | none =>
      match Text.unencodable? (body.write style) with
      | some message => .error (.refused (.unencodable message))
      | none => .ok ⟨Url.below {} url, body⟩

end PostRequest

namespace HttpReply

/-- What is wrong with the first header that is not a text in ASCII. -/
def headerLapse? : Members → Option Lapse
  | [] => none
  | (name, value) :: rest =>
    match Text.notAscii? name.toList, value with
    | some message, _ => some (.refused (.unencodable message))
    | none, .str text =>
      match Text.notAscii? text.toList with
      | some message => some (.refused (.unencodable message))
      | none => headerLapse? rest
    | none, _ => some (.failed (.shape .kind))

/-- The values of a header, one after the other; those of a reply that has come are texts. Case does
not matter in its name. -/
def header? (reply : HttpReply) (name : String) : Option String :=
  let found := reply.headers.filter fun (key, _) => key.map Char.toLower = name
  if found.isEmpty then none else some (", ".intercalate (found.map fun (_, v) => v.display))

/-- The location that a redirect names. -/
def location (reply : HttpReply) : Option String := reply.header? "location"

/-- What is wrong with the location of a redirect, for a client that would follow it. -/
def locationLapse? (reply : HttpReply) : Option Lapse :=
  match reply.location with
  | some location =>
    if Http.isRedirect reply.status then
      match Url.parse location with
      | .error fault => some (.broken ("Invalid URL in location header: " ++ fault.message ++ "."))
      | .ok url =>
        if url.scheme ≠ "" && url.host.isEmpty && !url.path.isEmpty &&
            url.path.head? ≠ some '/' then
          some (.failed (.badAddress UrlFault.rootless.message))
        else none
    else none
  | none => none

/-- The complaint about a reply to a request to `url` that does not report success. -/
def statusMessage (reply : HttpReply) (url : Url) : String :=
  let status := toString reply.status
  let redirect := match reply.location with
    | some location =>
      if Http.isRedirect reply.status then "Redirect location: '" ++ location ++ "'\n" else ""
    | none => ""
  Http.className reply.status ++ " '" ++ status ++ " " ++ Http.reasonPhrase reply.status ++
    "' for url '" ++ url.text ++ "'\n" ++ redirect ++
    "For more information check: https://developer.mozilla.org/en-US/docs/Web/HTTP/Status/" ++
    status

/-- The JSON value of a reply for a reader that can follow it to a depth, or why it has none. -/
def json (depth : Nat) (reply : HttpReply) : Except JsonError Json :=
  Json.readSent depth reply.body

end HttpReply

/-- The way to other programs, in a world of any type. -/
structure Client (σ : Type) where
  /-- How many lists and objects may be open at a time in the document of a reply. -/
  depth : Nat
  /-- Gets ready, with the seconds to wait for a reply. -/
  start : Json → σ → σ
  /-- Posts a document. -/
  post : PostRequest → σ → Except Lapse HttpReply × σ

namespace Client

variable {σ : Type}

/-- What a client makes of a reply to a request to `url`: one from an address without a scheme is
refused. -/
def accept (url : Url) (reply : HttpReply) : Except Lapse (Url × HttpReply) :=
  match HttpReply.headerLapse? reply.headers with
  | some lapse => .error lapse
  | none =>
    if url.scheme = "" then
      .error (.refused (.unsuitable ("unknown url type: " ++ String.ofList (Text.quoted url.text))))
    else
      match reply.locationLapse? with
      | some lapse => .error lapse
      | none => .ok (url, reply)

/-- The reply to a document that is posted to an address, with the address that it came from. -/
def exchange (client : Client σ) (patience address body : Json) (world : σ) :
    Except Lapse (Url × HttpReply) × σ :=
  let world := client.start patience world
  match address with
  | .str address =>
    match PostRequest.prepare address body with
    | .error lapse => (.error lapse, world)
    | .ok request =>
      let (reply, world) := client.post request world
      (reply.bind (accept request.url), world)
  | _ => (.error (.failed (.shape .kind)), world)

end Client

end CallPlan
