import CallPlan.Service
import CallPlan.Shell
import CallPlan.Launch
import Std.Time.DateTime.Timestamp

/-!
# CallPlan.Main

The program. It reads its settings from the environment and does what the arguments of the command
line set off. The service answers requests that stand on lines of the standard input, as a method, a
target and a body; the shell talks to the service of its own process. Services on the network are
out of reach.
-/

namespace CallPlan

namespace Main

/-- The world of one request: when it is handled, which identifiers have been drawn, and what has
been shown. -/
structure Session where
  now : DateTime
  clock : Int
  /-- What all identifiers of the session start with. -/
  seed : String
  drawn : Nat
  shown : String

/-- The identifiers after those that have been drawn. -/
def Session.draw (session : Session) : (Nat → String) × Session :=
  (fun n => session.seed ++ "-" ++ toString session.drawn ++ "-" ++ toString n,
    { session with drawn := session.drawn + 1 })

/-- What is said of services on the network. -/
def outOfReach : String := "no network transport"

/-- To what depth this program reads the documents of others. -/
def depth : Nat := 900

/-- The services on the network, none of which can be reached. -/
def services : Services Session where
  client :=
    { depth
      start _ session := session
      post _ session := (.error (.unreachable outOfReach), session) }
  openai _ _ session := (.clientError outOfReach, session)
  anthropic _ _ session := (.clientError outOfReach, session)

/-- The service with the tools of this process. -/
def service (settings : Settings) : Service Session where
  depth
  toolbox := .standard
  settings := settings
  model := (Backend.choose .null settings).map fun backend => backend.model services settings
  now := Session.now
  clock := Session.clock
  draw := Session.draw

/-- The text of a response. -/
def contentText : Content → String
  | .json value => value.compactText
  | .text text => text

/-- Answers a request of this process or of a line of the standard input; the response to one that
names no address is a refusal. -/
def answer (settings : Settings) (request : Except Failure ServiceRequest) (session : Session) :
    ServiceResponse × Session :=
  match request with
  | .ok request => (service settings).handle request session
  | .error failure => (.refusal 400 (.str failure.message), session)

/-- The console of a shell whose messages go to the service of this process. -/
def console (settings : Settings) : Console Session where
  print text session :=
    match Text.unencodable? text.toList with
    | some message => (.error (.unencodable message), session)
    | none => (.ok (), { session with shown := session.shown ++ text })
  pause _ session := (.ok (), session)
  client :=
    { depth
      start _ session := session
      post request session :=
        let body := Text.utf8 request.body.asciiText
        let asked := ServiceRequest.ofTarget "POST" request.url.text body
        let (response, session) := answer settings asked session
        (.ok ⟨response.status, Text.utf8 (contentText response.content), []⟩, session) }

/-- The world at present. -/
def present : IO Session := do
  let time ← Std.Time.Timestamp.now
  let bytes ← IO.getRandomBytes 16
  let clock ← IO.monoNanosNow
  let seed := String.join (bytes.toList.map fun b => toString b.toNat)
  return ⟨.utc (time.toNanosecondsSinceUnixEpoch.val / 1000), clock / 1000, seed, 0, ""⟩

/-- The texts of the environment under the names of the settings. -/
def environment : IO (List (String × String)) := do
  let mut found := []
  for name in Settings.names do
    for spelling in [name.map Char.toLower, name] do
      if let some value ← IO.getEnv spelling then
        found := found ++ [(name, value)]
  return found

/-- The request on a line: a method, a target, and a body that takes the rest. -/
def requestOf (line : String) : Except Failure ServiceRequest :=
  let cs := Text.trimBy Text.isBlank line.toList
  let method := cs.takeWhile (· ≠ ' ')
  let rest := (cs.drop method.length).dropWhile (· = ' ')
  let target := rest.takeWhile (· ≠ ' ')
  let body := (rest.drop target.length).dropWhile (· = ' ')
  ServiceRequest.ofTarget (String.ofList method) (String.ofList target)
    (Text.utf8 (String.ofList body))

/-- Answers the requests on the lines of the standard input. -/
partial def serve (settings : Settings) (stdin stdout : IO.FS.Stream) : IO Unit := do
  let line ← stdin.getLine
  unless line.isEmpty do
    let (response, _) := answer settings (requestOf line) (← present)
    stdout.putStrLn (toString response.status ++ " " ++ contentText response.content)
    stdout.flush
    serve settings stdin stdout

/-- Runs the shell on the lines of the standard input. -/
partial def converse (settings : Settings) (stdin stdout : IO.FS.Stream) : IO UInt32 := do
  stdout.putStr Shell.prompt
  stdout.flush
  let line ← stdin.getLine
  if line.isEmpty || Shell.isFarewell line then return 0
  let (result, session) := Shell.converse (console settings) settings line (← present)
  stdout.putStr session.shown
  stdout.flush
  match result with
  | .ok () => converse settings stdin stdout
  | .error failure =>
    IO.eprintln failure.message
    return 1

/-- Does what starting the program sets off. -/
def perform (settings : Settings) (steps : List LaunchStep) : IO UInt32 := do
  let stdin ← IO.getStdin
  let stdout ← IO.getStdout
  for step in steps do
    match step with
    | .logging _ _ => pure ()
    | .serve options =>
      match Launch.banner options.port with
      | .ok banner =>
        stdout.putStr banner
        stdout.flush
        unless steps.contains .shell do serve settings stdin stdout
      | .error long =>
        IO.eprintln long.message
        return 1
    | .shell =>
      stdout.putStr Shell.banner
      return ← converse settings stdin stdout
  return 0

end Main

end CallPlan

open CallPlan in
/-- The program. -/
def main (arguments : List String) : IO UInt32 := do
  match Settings.ofEnvironment (← Main.environment) with
  | .refused issues =>
    IO.eprintln (Json.arr (issues.map Issue.toJson)).text
    return 1
  | .ok settings =>
    match Launch.start settings arguments with
    | (_, .error (.arguments ending)) => return UInt32.ofNat ending.exitCode
    | (_, .error (.failed failure)) =>
      IO.eprintln failure.message
      return 1
    | (settings, .ok steps) => Main.perform settings steps
