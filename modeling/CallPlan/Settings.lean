import CallPlan.Record.Scalar
import CallPlan.Text.LowerCase

/-!
# CallPlan.Settings

The settings of the program, with their defaults, and how they are read from named texts such as
environment variables. Names are compared without regard to case; of several spellings of one name
the last one counts. Texts are taken as they are; numbers and truth values are read from them.

A setting may also be given as a value (`Settings.override`), and then it is any value: what cannot
be used shows where it is used.
-/

namespace CallPlan

/-- The settings of the program. -/
structure Settings where
  apiPort : Json := .int 8000
  debug : Json := .bool false
  logLevel : Json := .str "info"
  planner : Json := .str "openai"
  openaiKey : Json := .null
  openaiModel : Json := .str "gpt-4o-mini"
  anthropicKey : Json := .null
  anthropicModel : Json := .str "claude-3-5-haiku-latest"
  tgiEndpoint : Json := .str "http://tgi:8080/generate"
  plannerTemperature : Json := .float (.ofDecimal false 2 (-1))
  maxOutputTokens : Json := .int 4096
  requestTimeout : Json := .float (.ofInt 30)
  /-- Seconds after which a turn starts no further calls; a value that says nothing sets no
  limit. -/
  turnTimeout : Json := .float .zero
  contextId : Json := .str ""
  userId : Json := .str ""
  deriving DecidableEq, Inhabited

namespace Settings

/-- The settings under their names, in the order of their declaration. -/
def toMembers (s : Settings) : Members :=
  [("API_PORT", s.apiPort), ("DEBUG", s.debug), ("LOG_LEVEL", s.logLevel), ("PLANNER", s.planner),
    ("OPENAI_API_KEY", s.openaiKey), ("OPENAI_MODEL", s.openaiModel),
    ("ANTHROPIC_API_KEY", s.anthropicKey), ("ANTHROPIC_MODEL", s.anthropicModel),
    ("TGI_ENDPOINT", s.tgiEndpoint), ("PLANNER_TEMPERATURE", s.plannerTemperature),
    ("MAX_OUTPUT_TOKENS", s.maxOutputTokens), ("AI_REQUEST_TIMEOUT", s.requestTimeout),
    ("TURN_TIMEOUT", s.turnTimeout), ("CONTEXT_ID", s.contextId), ("USER_ID", s.userId)]

/-- The default settings. -/
def default : Settings := {}

/-- The names of the settings, in the order of their declaration. -/
def names : List String := Members.keys default.toMembers

/-- Settings with some of them given, under their names. -/
def override (s : Settings) (given : Members) : Settings :=
  let value (key : String) (default : Json) : Json := (Members.get? given key).getD default
  { apiPort := value "API_PORT" s.apiPort
    debug := value "DEBUG" s.debug
    logLevel := value "LOG_LEVEL" s.logLevel
    planner := value "PLANNER" s.planner
    openaiKey := value "OPENAI_API_KEY" s.openaiKey
    openaiModel := value "OPENAI_MODEL" s.openaiModel
    anthropicKey := value "ANTHROPIC_API_KEY" s.anthropicKey
    anthropicModel := value "ANTHROPIC_MODEL" s.anthropicModel
    tgiEndpoint := value "TGI_ENDPOINT" s.tgiEndpoint
    plannerTemperature := value "PLANNER_TEMPERATURE" s.plannerTemperature
    maxOutputTokens := value "MAX_OUTPUT_TOKENS" s.maxOutputTokens
    requestTimeout := value "AI_REQUEST_TIMEOUT" s.requestTimeout
    turnTimeout := value "TURN_TIMEOUT" s.turnTimeout
    contextId := value "CONTEXT_ID" s.contextId
    userId := value "USER_ID" s.userId }

/-- The value of a setting that a text gives. -/
def read (name text : String) : Checked Json :=
  let check : Checked Json :=
    if ["API_PORT", "MAX_OUTPUT_TOKENS"].contains name then Json.int <$> Record.intText text
    else if name = "DEBUG" then Json.bool <$> Record.bool (.str text)
    else if ["PLANNER_TEMPERATURE", "AI_REQUEST_TIMEOUT", "TURN_TIMEOUT"].contains name then
      Json.float <$> Record.floatText text
    else .ok (.str text)
  check.within (.key name)

/-- The values of named settings that texts give. -/
def readAll (texts : List (String × String)) : List String → Checked Members
  | [] => .ok []
  | name :: rest =>
    match List.lookup name texts with
    | some text =>
      (fun value given => (name, value) :: given) <$> read name text <*> readAll texts rest
    | none => readAll texts rest

/-- Settings read from named texts. -/
def ofEnvironment (environment : List (String × String)) : Checked Settings :=
  let texts := environment.reverse.map fun (name, text) =>
    ((Text.lower name).map Char.toUpper, text)
  default.override <$> readAll texts names

end Settings

end CallPlan
