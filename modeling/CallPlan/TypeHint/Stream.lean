import CallPlan.TypeHint.Eval

/-!
# CallPlan.TypeHint.Stream

The next items of streams, and the machine that ties evaluation, calls and streams together.

* A stream that has given its last item gives none from then on.
* `machine` is built level by level: the machine of a level evaluates with the one below it, and the
  lowest one refuses everything.
-/

namespace CallPlan

namespace TypeHint

namespace Machine

variable (m : Machine)

/-- How many items a stream passes over at most to find one. -/
def passLimit : Nat := 100000

/-- Puts a stream in the place of another one, and gives an item. -/
def goOn (address : Nat) (type : String) (stream : Stream) (item : Value) :
    Action (Option Value) := do
  write address (.stream type stream)
  return some item

/-- Ends a stream. -/
def finish (address : Nat) (type : String) : Action (Option Value) := do
  write address (.stream type (.items []))
  return none

/-- The next items of several streams, up to the first one that has none. -/
def nextOfAll : List Value → Action (List Value × Bool)
  | [] => return ([], true)
  | source :: sources => do
    match ← m.nextOf? source with
    | none => return ([], false)
    | some item =>
      let (items, isFull) ← nextOfAll sources
      return (item :: items, isFull)

/-- The first item of a source that passes a test; a step of fuel for each item. -/
def firstPassing (test source : Value) : (fuel : Nat) → Action (Option Value)
  | 0 => throw ⟨"MemoryError", ""⟩
  | fuel + 1 => do
    match ← m.nextOf? source with
    | none => return none
    | some item =>
      let outcome ← if test.isNothing then pure item else m.call test ⟨[item], []⟩
      if ← m.truth outcome then return some item else firstPassing test source fuel

/-- What is said of the sources of a stream that do not end together: `place` counts those that gave
an item. -/
def uneven (place : Nat) (isShorter : Bool) : Fault :=
  .badValue ("zip() argument " ++ toString (place + 1) ++ " is " ++
    (if isShorter then "shorter" else "longer") ++ " than argument" ++
    (if place = 1 then " 1" else "s 1-" ++ toString place))

/-- The items of several sources side by side. -/
def nextZipped (sources : List Value) (isStrict : Bool) : Action (Option (List Value)) := do
  if sources.isEmpty then return none
  else
    let (items, isFull) ← m.nextOfAll sources
    if isFull then return some items
    else if !isStrict then return none
    else if items.isEmpty then
      -- all others must have ended as well
      let rest ← (sources.drop 1).mapM m.nextOf?
      match rest.findIdx? Option.isSome with
      | some k => throw (uneven (k + 1) false)
      | none => return none
    else throw (uneven items.length true)

/-- Evaluation within a stream: a stop of another stream is no stop of this one. -/
def within {α : Type} (action : Action α) : Action α :=
  tryCatch action fun fault =>
    if fault.kind = "StopIteration" then throw (.badState "generator raised StopIteration")
    else throw fault

/-- The next item that a function hands over: it runs from its beginning, and is given what it was
sent before. -/
def nextHanded (address : Nat) (type : String) (scope : Scope)
    (own : List (String × Option Value)) (body : Expr) (sent : List Value) :
    Action (Option Value) := do
  let outer ← get
  let reply := outer.replies.headD .nothing
  let sent := sent ++ [reply]
  write address (.stream type (.items []))
  match ← allocate (.frame false own) with
  | .reference frame =>
    modify fun store => { store with replies := sent.drop 1, handed := none }
    let ended ← tryCatch (do
        let _ ← within (m.eval (frame :: scope) body)
        return true) fun fault =>
      if fault = .handing then pure false else do
        modify fun store => { store with replies := [], handed := outer.handed }
        throw fault
    let item := (← get).handed
    modify fun store => { store with replies := [], handed := outer.handed }
    match ended, item with
    | false, some item => goOn address type (.handed scope own body sent) item
    | _, _ => return none
  | _ => throw .unsuited

/-- The next item of the stream at an address. -/
def next (address : Nat) : Action (Option Value) := do
  match ← read address with
  | .stream type stream =>
    match stream with
    | .items [] | .awaited => return none
    | .items (item :: rest) => goOn address type (.items rest) item
    | .positions list position =>
      match ← read list with
      | .list items =>
        match items[position]? with
        | some item => goOn address type (.positions list (position + 1)) item
        | none => finish address type
      | _ => finish address type
    | .backwards list position =>
      match ← read list, decide (0 ≤ position) with
      | .list items, true =>
        match items[position.toNat]? with
        | some item => goOn address type (.backwards list (position - 1)) item
        | none => finish address type
      | _, _ => finish address type
    | .numbers next stop step =>
      if (0 < step && next < stop) || (step < 0 && stop < next) then
        goOn address type (.numbers (next + step) stop step) (.int next)
      else finish address type
    | .mapped function sources =>
      let (items, isFull) ← m.nextOfAll sources
      if isFull then return some (← m.call function ⟨items, []⟩) else return none
    | .filtered test source => m.firstPassing test source passLimit
    | .zipped sources isStrict =>
      return (← m.nextZipped sources isStrict).map .tuple
    | .numbered k source =>
      match ← m.nextOf? source with
      | some item => goOn address type (.numbered (k + 1) source) (.tuple [.int k, item])
      | none => return none
    | .calls function last =>
      let item ← m.call function ⟨[], []⟩
      if ← m.same item last then finish address type else return some item
    | .indexed owner position =>
      match ← attempt ["IndexError", "StopIteration"] (m.item owner (.int position)) with
      | some item => goOn address type (.indexed owner (position + 1)) item
      | none => finish address type
    | .comprehension scope values loops _ =>
      write address (.stream type (.items []))
      let steps := m.step scope values passLimit loops
      match ← if type = "generator" then within steps else steps with
      | some (item, loops) => goOn address type (.comprehension scope values loops true) item
      | none => return none
    | .handed scope own body sent => m.nextHanded address type scope own body sent
  | _ => throw .unsuited

end Machine

/-- The machine of a level; `given` is what stands for values that are given from outside. -/
def machine (given : Nat → Action Value) : (fuel : Nat) → Machine
  | 0 => ⟨fun _ _ => throw .tooDeep, fun _ _ => throw .tooDeep, fun _ => throw .tooDeep⟩
  | fuel + 1 =>
    ⟨fun scope expr => (machine given fuel).evaluate given scope expr,
      fun callee arguments => (machine given fuel).apply callee arguments,
      fun address => (machine given fuel).next address⟩

end TypeHint

end CallPlan
