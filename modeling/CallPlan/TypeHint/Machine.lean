import CallPlan.TypeHint.Equality
import CallPlan.TypeHint.Quoted

/-!
# CallPlan.TypeHint.Machine

What operations need of an evaluation: values of expressions, outcomes of calls, and the next items
of streams. A machine gives all three, and each of its steps uses a machine with less to give.

* Values of classes that were made may say for themselves what an operation makes of them
  (`special?`).
* Whatever gives items one after the other becomes a stream (`open_`), and its items a list
  (`collect`).
-/

namespace CallPlan

namespace TypeHint

/-- What operations need of an evaluation. -/
structure Machine where
  eval : Scope → Expr → Action Value
  call : Value → Arguments → Action Value
  /-- The next item of the stream at an address, if there is one. -/
  advance : Nat → Action (Option Value)

/-- A function of the language that was written as an expression. -/
def isClosure (value : Value) : Action Bool := do
  match value with
  | .reference address =>
    match ← read address with
    | .closure _ => return true
    | _ => return false
  | _ => return false

namespace Machine

variable (m : Machine)

/-! ## What made classes say -/

/-- What a value of a class that was made says for itself under a name, for some arguments. -/
def special? (value : Value) (name : String) (arguments : List Value) : Action (Option Value) := do
  let store ← get
  match value with
  | .reference address =>
    match store.get? address with
    | some (.record (.reference type) _ _) =>
      match store.madeMember? (.reference type) name with
      | none => return none
      | some .nothing => throw .unsuited
      | some member =>
        let given := if ← isClosure member then value :: arguments else arguments
        return some (← m.call member ⟨given, []⟩)
    | _ => return none
  | _ => return none

/-- Whether a value counts as true. -/
def truth (value : Value) : Action Bool := do
  match ← m.special? value "__bool__" [] with
  | some outcome =>
    match outcome with
    | .bool b => return b
    | _ => throw .unsuited
  | none =>
    match ← m.special? value "__len__" [] with
    | some outcome => return (← get).truth outcome
    | none => return (← get).truth value

/-- The whole number that a value is where one is asked for. -/
def index (value : Value) : Action Int := do
  match (← value.plain).int? with
  | some n => return n
  | none =>
    match ← m.special? value "__index__" [] with
    | some outcome =>
      match outcome.int? with
      | some n => return n
      | none => throw .unsuited
    | none => throw .unsuited

/-- The text that a value is where one is asked for. -/
def text (value : Value) : Action String := do
  match ← value.plain with
  | .text s => return s
  | _ => throw .unsuited

/-! ## Items -/

/-- The texts of one character each that a text is made of. -/
def characters (s : String) : List Value :=
  (Text.points s.toList).map fun n => .text (Quoted.textOf [n])

/-- The items that a value has, where they are known at once. -/
def items? (store : Store) (value : Value) : Option (String × List Value) :=
  match store.plainIn value with
  | .text s => some ("str_ascii_iterator", characters s)
  | .bytes octets => some ("bytes_iterator", octets.map fun (n : Nat) => .int n)
  | .tuple items => some ("tuple_iterator", items)
  | .frozenSet items => some ("set_iterator", items)
  | .view kind address =>
    match store.get? address, kind with
    | some (.table entries), .values => some ("dict_valueiterator", entries.map Prod.snd)
    | some (.table entries), .entries =>
      some ("dict_itemiterator", entries.map fun (k, v) => .tuple [k, v])
    | some (.table entries), _ => some ("dict_keyiterator", entries.map Prod.fst)
    | _, _ => none
  | .reference address =>
    match store.get? address with
    | some (.list items) => some ("list_iterator", items)
    | some (.table entries) => some ("dict_keyiterator", entries.map Prod.fst)
    | some (.set items) => some ("set_iterator", items)
    | some (.octets octets) => some ("bytearray_iterator", octets.map fun (n : Nat) => .int n)
    | _ => none
  | _ => none

/-- The forms whose types give no items. -/
def closedForms : List String := ["Union", "Callable", "Annotated"]

/-- The stream of the items of a value. -/
def open_ (value : Value) : Action Nat := do
  let store ← get
  let fresh (type : String) (stream : Stream) : Action Nat := do
    match ← allocate (.stream type stream) with
    | .reference address => return address
    | _ => throw .unsuited
  let unpacked (value : Value) : Value := .generic "Unpack" [value]
  match ← m.special? value "__iter__" [] with
  | some (.reference address) => return address
  | some _ => throw .unsuited
  | none =>
    match store.plainIn value with
    | .range start stop step => fresh "range_iterator" (.numbers start stop step)
    | .applied origin parts _ =>
      fresh "generic_alias_iterator" (.items [.applied origin parts true])
    | .variable .types .. => fresh "generator" (.items [unpacked value])
    | .generic origin _ =>
      if closedForms.contains origin || ["ClassVar", "Final"].contains origin then throw .unsuited
      else fresh "generator" (.items [unpacked value])
    | .reference address =>
      match store.get? address with
      | some (.list _) => fresh "list_iterator" (.positions address 0)
      | some (.stream "async_generator" _) => throw .unsuited
      | some (.stream ..) => return address
      | some (.record (.reference type) _ _) =>
        if (store.madeMember? (.reference type) "__getitem__").isSome then
          fresh "iterator" (.indexed value 0)
        else if (store.madeMember? (.reference type) "__next__").isSome then return address
        else ofItems store value fresh
      | _ => ofItems store value fresh
    | _ => ofItems store value fresh
where
  /-- The stream of items that are known at once. -/
  ofItems (store : Store) (value : Value) (fresh : String → Stream → Action Nat) : Action Nat :=
    match items? store value with
    | some (type, items) => fresh type (.items items)
    | none => throw .unsuited

/-- The most items that are collected from a stream. -/
def itemLimit : Nat := 1000000

/-- The items that an action gives until it gives none, after those found before; a step of fuel for
each. -/
def drain (next : Action (Option Value)) : (fuel : Nat) → (found : List Value) →
    Action (List Value)
  | 0, _ => throw ⟨"MemoryError", ""⟩
  | fuel + 1, found => do
    match ← next with
    | some item => drain next fuel (item :: found)
    | none => return found.reverse

/-- The items of a value. -/
def collect (value : Value) : Action (List Value) := do
  let store ← get
  match value, items? store value with
  | .reference address, found =>
    match store.get? address, found with
    | some (.record (.reference _) ..), _ | _, none => do
      let stream ← m.open_ value
      drain (m.advance stream) itemLimit []
    | _, some (_, items) => return items
  | _, some (_, items) => return items
  | value, none => do
    let stream ← m.open_ value
    drain (m.advance stream) itemLimit []

/-- What a fold over the items of a value ends with; it may end early. -/
def foldItems {α : Type} (value : Value) (start : α) (step : α → Value → Action (α × Bool)) :
    Action α := do
  let stream ← m.open_ value
  go (m.advance stream) itemLimit start
where
  /-- The fold over what an action gives; a step of fuel for each item. -/
  go (next : Action (Option Value)) : (fuel : Nat) → α → Action α
    | 0, _ => throw ⟨"MemoryError", ""⟩
    | fuel + 1, state => do
      match ← next with
      | none => return state
      | some item =>
        let (state, isDone) ← step state item
        if isDone then return state else go next fuel state

end Machine

end TypeHint

end CallPlan
