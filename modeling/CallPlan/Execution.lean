import CallPlan.Failure
import CallPlan.Tracker

/-!
# CallPlan.Execution

Running a plan.

* A plan is a fixed list of instructions; calls are run in order, each with its references replaced
  by earlier outputs. No model is asked.
* A run ends early when a call fails, when a reference has no value (the call that needs it fails
  without being invoked), or when the run is cancelled: before each call the cancellation signal and
  the deadline are looked at. A call that has started is never interrupted. A failure of the tool
  runtime itself ends the run without an outcome, and so does an error result about which nothing
  can be said because a number in it has too many digits; the step of its call is left open.
* The world in which tools run is a value of any type, which each invocation turns into the next.
-/

namespace CallPlan

/-! ## The world of a run -/

/-- What a run needs of the world it takes place in. -/
structure Host (σ : Type) where
  /-- Invokes a tool with arguments. Failures of the tool come back as error results. -/
  invoke : String → Members → σ → Except Failure CallResult × σ
  /-- The present time, or why a step cannot be dated. -/
  now : σ → Except Failure DateTime
  /-- The microseconds of a clock. -/
  clock : σ → Int
  /-- Whether the run has been cancelled. -/
  cancelled : σ → Bool

/-- A point on the host's clock, in seconds. -/
abbrev Deadline := Number

namespace Deadline

/-- A reading of the clock in seconds. -/
def reading (micros : Int) : Binary64 := .ofMicros micros

/-- Whether the clock has reached a deadline. -/
def passed (deadline : Deadline) (micros : Int) : Bool :=
  let (p, q) := (reading micros).toRatio?.getD (0, 1)
  match deadline with
  | .int seconds => decide (seconds * q ≤ p)
  | .float .nan => false
  | .float (.infinite negative) => negative
  | .float x =>
    match x.toRatio? with
    | some (num, den) => decide (num * q ≤ p * den)
    | none => false

/-- How long it took from one reading of the clock to another, in whole milliseconds. -/
def elapsed (started ended : Int) : Int := ((reading ended).sub (reading started)).wholeMillis

/-- The number that a value stands for where numbers are asked for; truth values count. -/
def number? : Json → Option Number
  | .num n => some n
  | .bool b => some (.int (if b then 1 else 0))
  | _ => none

/-- The deadline some seconds after a reading of the clock; a number of seconds that says nothing
sets none. -/
def after (timeout : Json) (micros : Int) : Except Failure (Option Deadline) :=
  if timeout.isVoid then .ok none
  else
    match number? timeout with
    | none => .error (.shape .kind)
    | some (.float x) => .ok (some (.float ((reading micros).add x)))
    | some (.int n) =>
      if (Binary64.ofInt n).isFinite then
        .ok (some (.float ((reading micros).add (.ofInt n))))
      else .error .beyondRange

end Deadline

/-! ## Runs -/

/-- A run between two calls. -/
structure RunState (σ ω : Type) where
  world : σ
  tracker : Option (Tracker ω)
  results : List ExecutionResult

/-- How a run ends. -/
inductive RunEnd where
  | finished
  | halted (position : Nat) (reason : HaltReason)
  | failed (failure : Failure)
  deriving DecidableEq, Inhabited

namespace Execution

variable {σ ω : Type}

/-- Whether no further call may start. -/
def stopped (host : Host σ) (deadline : Option Deadline) (world : σ) : Bool :=
  host.cancelled world ||
    match deadline with
    | some deadline => deadline.passed (host.clock world)
    | none => false

/-- Tells the tracker, if there is one, of something that happens now. It ends the run where it
cannot be dated. -/
def report (tracker : Option (Tracker ω)) (now : Except Failure DateTime)
    (dated : DateTime → Tracker ω → Tracker ω) (undated : Tracker ω → Tracker ω) :
    Option RunEnd × Option (Tracker ω) :=
  match tracker, now with
  | none, _ => (none, none)
  | some tracker, .ok now => (none, some (dated now tracker))
  | some tracker, .error failure => (some (.failed failure), some (undated tracker))

/-- A call whose reference has no value fails without being invoked. -/
def unresolvable (host : Host σ) (index : Nat) (call : PlannedCall) (message : String)
    (state : RunState σ ω) : RunEnd × RunState σ ω :=
  let (lapse, tracker) := report state.tracker (host.now state.world)
    (fun now t =>
      let t := t.toolExecution call.tool call.arguments now
      t.fail t.lastPosition (.str message) now) id
  match lapse with
  | some ending => (ending, { state with tracker })
  | none =>
    (.halted index .toolError,
      { state with
        tracker
        results := state.results ++ [.ofCall index call.tool (.error message) 0] })

/-- What the tracker is told of an invocation that came back with a result and, if that is an error,
with what is said about it. -/
def reportResult (result : ExecutionResult) (message : Option String) (now : DateTime)
    (tracker : Tracker ω) : Tracker ω :=
  let position := tracker.lastPosition
  if result.isError then
    let message := message.getD ""
    tracker.fail position (.str (if message = "" then "tool error" else message)) now
  else
    let tracker := tracker.complete position result.structured now
    match Wrapped.skillId? result.structured with
    | some skill =>
      if skill = "" then tracker
      else tracker.skillUsage skill (Wrapped.skillName? result.structured) now
    | none => tracker

/-- What an invocation amounts to that came back, or failed, after the clock read `started`: how the
run ends there, if it does. -/
def settle (host : Host σ) (index : Nat) (tool : String) (started : Int)
    (returned : Except Failure CallResult) (state : RunState σ ω) :
    Option RunEnd × RunState σ ω :=
  let now := host.now state.world
  let undated (failed : Bool) (t : Tracker ω) : Tracker ω :=
    t.endUndated t.lastPosition (if failed then .failed else .completed)
  match returned with
  | .error failure =>
    let (lapse, tracker) := report state.tracker now
      (fun now t => t.fail t.lastPosition (.str failure.message) now) (undated true)
    (some (lapse.getD (.failed failure)), { state with tracker })
  | .ok returned =>
    let duration := Deadline.elapsed started (host.clock state.world)
    let result := ExecutionResult.ofCall index tool returned duration
    let state := { state with results := state.results ++ [result] }
    match result.errorMessage with
    | .error long => (some (.failed (.ofLongNumber long)), state)
    | .ok message =>
      let (lapse, tracker) :=
        report state.tracker now (reportResult result message) (undated result.isError)
      (lapse <|> if result.isError then some (.halted index .toolError) else none,
        { state with tracker })

/-- Invokes a call with its resolved arguments: how the run ends there, if it does. -/
def invokeCall (host : Host σ) (index : Nat) (tool : String) (arguments : Members)
    (state : RunState σ ω) : Option RunEnd × RunState σ ω :=
  let (lapse, tracker) := report state.tracker (host.now state.world)
    (fun now t => t.toolExecution tool arguments now) id
  match lapse with
  | some ending => (some ending, { state with tracker })
  | none =>
    let (returned, world) := host.invoke tool arguments state.world
    settle host index tool (host.clock state.world) returned { state with world, tracker }

/-- One call of a plan: how the run ends there, if it does. -/
def runCall (host : Host σ) (deadline : Option Deadline) (index : Nat) (call : PlannedCall)
    (state : RunState σ ω) : Option RunEnd × RunState σ ω :=
  if stopped host deadline state.world then (some (.halted index .cancelled), state)
  else
    match substituteArguments call.arguments state.results with
    | .error (.longIndex long) => (some (.failed (.unchecked (.longIndex long))), state)
    | .error cause =>
      let (ending, state) := unresolvable host index call cause.message state
      (some ending, state)
    | .ok arguments => invokeCall host index call.tool arguments state

/-- Calls of a plan from an index on. -/
def runFrom (host : Host σ) (deadline : Option Deadline) (index : Nat) :
    List PlannedCall → RunState σ ω → RunEnd × RunState σ ω
  | [], state => (.finished, state)
  | call :: rest, state =>
    match runCall host deadline index call state with
    | (some ending, state) => (ending, state)
    | (none, state) => runFrom host deadline (index + 1) rest state

/-- The outcome of a run that ended, or the failure that ended it. -/
def outcome (ending : RunEnd) (results : List ExecutionResult) : Except Failure Outcome :=
  match ending with
  | .finished => .ok ⟨results, none, none⟩
  | .halted position reason => .ok ⟨results, some position, some reason⟩
  | .failed failure => .error failure

end Execution

/-- Runs a plan in a world: its outcome, and the world and the tracker afterwards. -/
def execute {σ ω : Type} (host : Host σ) (plan : ToolCalls) (deadline : Option Deadline)
    (tracker : Option (Tracker ω)) (world : σ) :
    Except Failure Outcome × σ × Option (Tracker ω) :=
  let (ending, state) := Execution.runFrom host deadline 0 plan.calls ⟨world, tracker, []⟩
  (Execution.outcome ending state.results, state.world, state.tracker)

/-- Runs a plan until a deadline that is given as a value: null sets none, and one that is no number
fails as soon as a call is to be timed by it. -/
def executeUntil {σ ω : Type} (host : Host σ) (plan : ToolCalls) (deadline : Json)
    (tracker : Option (Tracker ω)) (world : σ) :
    Except Failure Outcome × σ × Option (Tracker ω) :=
  match deadline, Deadline.number? deadline with
  | .null, _ => execute host plan none tracker world
  | _, some deadline => execute host plan (some deadline) tracker world
  | _, none =>
    if plan.calls.isEmpty || host.cancelled world then execute host plan none tracker world
    else (.error (.shape .kind), world, tracker)

end CallPlan
