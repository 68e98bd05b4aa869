import CallPlan.Failure
import CallPlan.Launch.Arguments
import CallPlan.Settings
import CallPlan.Terminal

/-!
# CallPlan.Launch

Starting the program: what the arguments of the command line set off, and how the service is served.
-/

namespace CallPlan

/-- How the service is to be served. The host and the log level are texts as a rule, and the port is
a whole number. -/
structure ServeOptions where
  host : Json := .str "0.0.0.0"
  port : Json := .int 8000
  reload : Json := .bool false
  /-- The log level of the server; null stands for that of the settings. -/
  logLevel : Json := .null
  deriving DecidableEq, Inhabited

/-- What a server is given. -/
structure ServerConfig where
  application : String
  host : Json
  port : Json
  reload : Json
  logLevel : Json
  deriving DecidableEq, Inhabited

/-- Something that starting the program does. -/
inductive LaunchStep where
  /-- Sets up logging from a level on, a number as a rule, in a format. -/
  | logging (level : Json) (format : String)
  | serve (options : ServeOptions)
  | shell
  deriving DecidableEq, Inhabited

/-- Why the program does not start. -/
inductive LaunchEnd where
  | arguments (ending : ArgumentEnd)
  | failed (failure : Failure)
  deriving DecidableEq, Inhabited

namespace Launch

/-! ## Logging -/

/-- The log levels under their names, and one name that stands for a format. -/
def levels : List (String × Json) :=
  [("NOTSET", .int 0), ("DEBUG", .int 10), ("INFO", .int 20), ("WARN", .int 30),
    ("WARNING", .int 30), ("ERROR", .int 40), ("FATAL", .int 50), ("CRITICAL", .int 50),
    ("BASIC_FORMAT", .str "%(levelname)s:%(name)s:%(message)s")]

/-- The log level of a name; an unknown one means the usual level. -/
def level (name : String) : Json := (List.lookup (Text.asciiUpper name) levels).getD (.int 20)

/-- The format of a log line. -/
def logFormat : String := "%(asctime)s | %(name)s | %(levelname)s | %(message)s"

/-! ## Starting -/

/-- The settings that hold from the start on: options come before them. A log level is in small
letters. -/
def settled (settings : Settings) (options : Options) : Settings :=
  { settings with
    logLevel := match options.logLevel, settings.logLevel with
      | .of level, _ => .str level
      | .left, _ => .arr []
      | .open, .str level => .str (Text.lower level)
      | .open, level => level }

/-- What the options set off. -/
def steps (settings : Settings) (options : Options) : Except Failure (List LaunchStep) :=
  match settings.logLevel with
  | .str name =>
    let logging := LaunchStep.logging (level name) logFormat
    match options.mode with
    | .open | .of .api =>
      .ok [logging, .serve { port := settings.apiPort, reload := settings.debug }]
    | .left | .of .cli =>
      .ok [logging, .serve { port := settings.apiPort, logLevel := .str "warning" }, .shell]
  | _ => .error (.shape .operation)

/-- What the arguments of the command line set off, and the settings that hold from then on. -/
def start (settings : Settings) (arguments : List String) :
    Settings × Except LaunchEnd (List LaunchStep) :=
  match Arguments.parse arguments with
  | .error ending => (settings, .error (.arguments ending))
  | .ok options =>
    let settings := settled settings options
    (settings, (steps settings options).mapError .failed)

/-! ## Serving -/

/-- What is shown when the service is served on a port, if that can be written. -/
def banner (port : Json) : Except LongNumber String := do
  let url := "http://localhost:" ++ (← port.spelled Json.display)
  return Colour.green.line ("🔮 toolplan API is running at " ++ url ++ ".") ++
    Colour.blue.line ("Visit " ++ url ++ "/docs for API documentation.")

/-- What the server is given. -/
def serverConfig (settings : Settings) (options : ServeOptions) : ServerConfig where
  application := "toolplan.api.app:app"
  host := options.host
  port := options.port
  reload := options.reload
  logLevel := if options.logLevel = .null then settings.logLevel else options.logLevel

end Launch

end CallPlan
