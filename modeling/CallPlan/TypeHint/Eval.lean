import CallPlan.TypeHint.Call
import CallPlan.TypeHint.Scope

/-!
# CallPlan.TypeHint.Eval

The value of an expression.

* A name stands for what the innermost frame that has it holds, or for one of the names that
  everything sees. A name that is given in an expression goes to the frame of the function around
  it.
* Comprehensions open one loop after the other and go on with the innermost one (`step`). A function
  that hands over items is run again for each of them, and given once more what it was sent before.
* `machine` ties evaluation, calls and streams together. Each level of calls takes a step of its
  fuel.
-/

namespace CallPlan

namespace TypeHint

/-! ## Names -/

namespace Names

/-- The value of a name in the table at an address. -/
def inTable? (store : Store) (address : Nat) (name : String) : Option Value :=
  match store.get? address with
  | some (.table entries) =>
    (entries.find? fun (key, _) =>
      match key with
      | .text text => decide (text = name)
      | _ => false).map Prod.snd
  | _ => none

/-- The name that stands for the end of what a frame lets through. -/
def border : String := ""

/-- The value of a name; `isInner` says that frames were looked through before. -/
def look (store : Store) (name : String) : (isInner : Bool) → Scope → Except Fault Value
  | _, [] =>
    match inTable? store globalAddress name <|> inTable? store builtinAddress name with
    | some value => .ok value
    | none => .error (.unknown name)
  | isInner, address :: rest =>
    match store.get? address with
    | some (.frame _ slots) =>
      match List.lookup name slots with
      | some (some value) => .ok value
      | some none => .error (if isInner then .unknown name else .unbound)
      | none =>
        if (List.lookup border slots).isSome then
          match inTable? store builtinAddress name with
          | some value => .ok value
          | none => .error (.unknown name)
        else look store name true rest
    | _ => look store name true rest

/-- Slots with a value under a name. -/
def filled (slots : List (String × Option Value)) (name : String) (value : Value) :
    List (String × Option Value) :=
  if slots.any fun (n, _) => n = name then
    slots.map fun (n, v) => (n, if n = name then some value else v)
  else slots ++ [(name, some value)]

/-- Gives a name to a value in the frame at an address. -/
def putSlot (address : Nat) (name : String) (value : Value) : Action Unit := do
  match ← read address with
  | .frame isComprehension slots =>
    write address (.frame isComprehension (filled slots name value))
  | _ => throw .unsuited

/-- Gives a name to a value in the function around an expression, or for everything to see. -/
def give (name : String) (value : Value) : Scope → Action Unit
  | [] => putEntry globalAddress (.text name) value
  | address :: rest => do
    match ← read address with
    | .frame false _ => putSlot address name value
    | _ => give name value rest

/-- The names of the innermost frame with their values. -/
def local? (scope : Scope) : Action (Option (List (String × Value))) := do
  match scope with
  | [] => return none
  | address :: _ =>
    match ← read address with
    | .frame _ slots =>
      return some (slots.filterMap fun (name, value) => value.map ((name, ·)))
    | _ => return some []

end Names

namespace Machine

variable (m : Machine)

/-! ## Targets -/

/-- The items of a value for a number of targets, of which one may take any number of them. -/
def unpackedItems (value : Value) (before : Nat) (after : Option Nat) : Action (List Value) := do
  let items ← m.collect value
  let count := items.length
  let got := ", got " ++ toString count ++ ")"
  match after with
  | none =>
    if count < before then
      throw (.badValue ("not enough values to unpack (expected " ++ toString before ++ got))
    else if before < count then
      throw (.badValue ("too many values to unpack (expected " ++ toString before ++ ")"))
    else return items
  | some after =>
    if count < before + after then
      throw (.badValue ("not enough values to unpack (expected at least " ++
        toString (before + after) ++ got))
    else
      let middle ← Value.list ((items.take (count - after)).drop before)
      return items.take before ++ [middle] ++ items.drop (count - after)

mutual

/-- Gives a value to a target: to a name of a frame, an attribute or an item, or item by item to
several targets. -/
def assign (scope : Scope) (value : Value) : Expr → Action Unit
  | .name name =>
    match scope with
    | address :: _ => Names.putSlot address name value
    | [] => putEntry globalAddress (.text name) value
  | .node (.attribute name) [owner] => do m.setField (← m.eval scope owner) name value
  | .node .item [owner, index] => do
    let owner ← m.eval scope owner
    m.setItem owner (← m.eval scope index) value
  | .node .tuple parts | .node .list parts => do
    let star? := parts.findIdx? fun
      | .node .star _ => true
      | _ => false
    let items ← match star? with
      | none => m.unpackedItems value parts.length none
      | some k => m.unpackedItems value k (some (parts.length - k - 1))
    assignAll scope items parts
  | .node .star [part] => assign scope value part
  | _ => throw .unsuited

/-- Gives values to targets, one to each. -/
def assignAll (scope : Scope) : List Value → List Expr → Action Unit
  | value :: values, part :: parts => do
    assign scope value part
    assignAll scope values parts
  | _, _ => return ()

end

/-! ## Comprehensions -/

/-- Whether the filters hold that come first, and the clauses after them. -/
def passes (scope : Scope) : List Clause → Action (Option (List Clause))
  | .filter condition :: rest => do
    if ← m.truth (← m.eval scope condition) then passes scope rest else return none
  | clauses => return some clauses

/-- The values of a comprehension for the next items of its loops, if there are any, and the loops
then. A step of fuel for each item. -/
def step (scope : Scope) (values : List Expr) :
    (fuel : Nat) → List (Value × Expr × List Clause) →
      Action (Option (Value × List (Value × Expr × List Clause)))
  | 0, _ => throw ⟨"MemoryError", ""⟩
  | _, [] => return none
  | fuel + 1, (source, target, clauses) :: outer => do
    match ← m.nextOf? source with
    | none => step scope values fuel outer
    | some item =>
      m.assign scope item target
      let loops := (source, target, clauses) :: outer
      match ← m.passes scope clauses with
      | none => step scope values fuel loops
      | some [] =>
        match ← values.mapM (m.eval scope) with
        | [value] => return some (value, loops)
        | parts => return some (.tuple parts, loops)
      | some (.loop _ target source :: rest) =>
        let source ← m.opened (← m.eval scope source)
        step scope values fuel ((source, target, rest) :: loops)
      | some _ => throw .unsuited

/-- What is made of the values that a comprehension gives. -/
def gather (form : ComprehensionForm) (items : List Value) : Action Value := do
  match form with
  | .list | .stream => Value.list items
  | .set => Value.setOf items
  | .dict =>
    Value.tableOf (items.filterMap fun
      | .tuple [key, value] => some (key, value)
      | _ => none)

/-- A comprehension whose first source is known. -/
def comprehend (scope : Scope) (form : ComprehensionForm) (values : List Expr)
    (clauses : List Clause) (first : Value) : Action Value := do
  match clauses with
  | .loop isAwaited target _ :: rest =>
    let isAsync := isAwaited || Expr.waitsIn values || Expr.waitsInside true clauses
    let own := (Expr.loopNames clauses).eraseDups.map ((·, none))
    match ← allocate (.frame true own) with
    | .reference frame =>
      let inner := frame :: scope
      if isAwaited then throw .unsuited
      else
        let source ← m.opened first
        let type := if isAsync then "async_generator" else if form = .stream then "generator"
        else "object"
        let stream ← newStream type (.comprehension inner values [(source, target, rest)] false)
        match form, stream with
        | .stream, _ => return stream
        | form, .reference address =>
          let next : Action (Option Value) := do
            let item ← m.advance address
            match form, item with
            | .set, some item => Value.hashed [item]
            | .dict, some (.tuple (key :: _)) => Value.hashed [key]
            | _, _ => pure ()
            return item
          gather form (← drain next itemLimit [])
        | _, _ => throw .unsuited
    | _ => throw .unsuited
  | _ => throw .unsuited

/-! ## Functions that see names -/

/-- A table of names. -/
def tableOfNames (names : List (String × Value)) : Action Value :=
  Value.table (names.map fun (name, value) => (.text name, value))

/-- The table of the names that an expression sees as its own. -/
def localTable (scope : Scope) : Action Value := do
  match ← Names.local? scope with
  | none => return .reference globalAddress
  | some names => tableOfNames names

/-- The source of an expression in a value: a text, bytes, or what was read before. -/
def sourceOf (value : Value) : Action String := do
  match ← value.plain with
  | .text s => return s
  | .bytes octets => return Quoted.textOf (← Value.lift (TextMethod.decode octets "utf8" "strict"))
  | .reference address =>
    match ← read address with
    | .record (.type "code") fields _ => Machine.text ((List.lookup "source" fields).getD .nothing)
    | _ => throw .unsuited
  | _ => throw .unsuited

/-- The value of a text that is written like an expression. -/
def evalText (scope : Scope) (given : List Value) : Action Value := do
  match given with
  | source :: tables =>
    let text ← sourceOf source
    let cs := (Text.chars text.toList).dropWhile fun c => c = ' ' || c = '\t'
    let expr ← Value.lift (expressionOf (String.ofList (Text.ofPoints (cs.map Char.toNat))))
    match tables with
    | [] => m.eval (scope.take 1) expr
    | tables =>
      let entries ← tables.mapM fun table => do
        if table.isNothing then return []
        else
          match table? (← get) table with
          | some (_, entries) =>
            entries.filterMapM fun (key, value) => do
              match ← key.plain with
              | .text name => return some (name, some value)
              | _ => return none
          | none => throw .unsuited
      let slots := entries.reverse.flatten ++ [(Names.border, none)]
      match ← allocate (.frame true slots) with
      | .reference frame => m.eval [frame] expr
      | _ => throw .unsuited
  | [] => throw .unsuited

/-- What a function gives that sees the names of the expression around it. -/
def scopedCall? (scope : Scope) (name : String) (given : Arguments) : Action (Option Value) := do
  match name, given.values with
  | "globals", [] => return some (.reference globalAddress)
  | "locals", [] | "vars", [] => return some (← localTable scope)
  | "dir", [] =>
    match table? (← get) (← localTable scope) with
    | some (_, entries) => return some (← Value.list (entries.map Prod.fst))
    | none => return some (← Value.list [])
  | "eval", values => do
    let _ ← Value.lift given.unnamed
    return some (← m.evalText scope values)
  | "exec", values => do
    let _ ← m.evalText scope values
    return some .nothing
  | _, _ => return none

/-! ## Expressions -/

/-- Entries with further ones; no key may come twice. -/
def merged (entries new : List (Value × Value)) : Action (List (Value × Value)) := do
  let store ← get
  if new.any fun (key, _) => (under? store entries key).isSome then throw .unsuited
  else return entries ++ new

/-- The entries of a value that is spread among others. -/
def spreadEntries (value : Value) : Action (List (Value × Value)) := do
  if (table? (← get) value).isNone && (← m.attribute? value "keys").isNone then throw .unsuited
  else m.entriesOf value

/-- The arguments under names, of which no name is anything but a text. -/
def namedBy (entries : List (Value × Value)) : Action (List (String × Value)) :=
  entries.mapM fun (key, value) => do return (← Machine.text key, value)

/-- The text that pieces and values are put together to. -/
def assembled : List Piece → List Value → Action (List String)
  | .literal text :: pieces, values => do return text :: (← assembled pieces values)
  | .field conversion hasLayout :: pieces, value :: values => do
    let value ← m.converted (conversion.map Char.toNat) value
    match hasLayout, values with
    | true, layout :: values =>
      let shown ← m.laidOut value (← Machine.text layout)
      return shown :: (← assembled pieces values)
    | _, values =>
      let shown ← m.laidOut value ""
      return shown :: (← assembled pieces values)
  | _, _ => return []

/-- Whether an expression stands for the items of its value. -/
def isStar : Expr → Bool
  | .node .star _ => true
  | _ => false

/-- The values for which an expression with a value stands among others. -/
def spread (expr : Expr) (value : Value) : Action (List Value) := do
  if isStar expr then m.collect value else return [value]

/-- What a call gives; a few functions see the names of the expression around it. -/
def callIn (scope : Scope) (callee : Value) (given : Arguments) : Action Value := do
  match callee with
  | .function name =>
    match ← m.scopedCall? scope name given with
    | some value => return value
    | none => m.call callee given
  | callee => m.call callee given

/-- What an operation makes of the values of its parts. -/
def operate (head : Head) (values : List Value) : Action Value := do
  match head, values with
  | .attribute name, [owner] => m.attributeOf owner name
  | .item, [owner, index] => m.item owner index
  | .slice, [start, stop, step] => return .slice start stop step
  | .tuple, values => return .tuple values
  | .list, values => Value.list values
  | .set, values => Value.setOf values
  | .unary operator, [value] => m.unary operator value
  | .binary operator, [left, right] => m.binary operator left right
  | .formatted pieces, values => return .text (String.join (← m.assembled pieces values))
  | _, _ => throw .unsuited

/-- Hands an item over: what was sent for it if it was handed over before, and else the function
stops. -/
def handOver (item : Value) : Action Value := do
  let store ← get
  match store.replies with
  | reply :: rest => do
    set { store with replies := rest }
    return reply
  | [] => do
    set { store with handed := some item }
    throw .handing

mutual

/-- The value of an expression. -/
def evaluate (given : Nat → Action Value) (scope : Scope) : Expr → Action Value
  | .name name => do Value.lift (Names.look (← get) name false scope)
  | .constant value => return .ofConstant value
  | .given place => given place
  | .both left right => do
    let value ← evaluate given scope left
    if ← m.truth value then evaluate given scope right else return value
  | .either left right => do
    let value ← evaluate given scope left
    if ← m.truth value then return value else evaluate given scope right
  | .choice condition yes no => do
    if ← m.truth (← evaluate given scope condition) then evaluate given scope yes
    else evaluate given scope no
  | .assign name value => do
    let value ← evaluate given scope value
    Names.give name value scope
    return value
  | .node (.compare operators) (first :: rest) => do
    chain given scope operators (← evaluate given scope first) rest
  | .node .star [part] => evaluate given scope part
  | .node (.call forms) (callee :: parts) => do
    let callee ← evaluate given scope callee
    let isLone := (forms.filter fun form => form = .position || form = .spread) = [.spread]
    let placed ← evaluatePlaced given scope isLone forms parts
    let named ← evaluateNamed given scope [] [] forms parts
    let values ← if isLone then m.collect (placed.headD .nothing) else pure placed
    m.callIn scope callee ⟨values, ← namedBy named⟩
  | .node (.dict spreads) parts => do
    Value.tableOf (← evaluateEntries given scope [] [] none spreads parts)
  | .node .set parts => do Value.setOf (← evaluateMembers given scope false [] parts)
  | .node head parts => do m.operate head (← evaluateAll given scope parts)
  | .function formals defaults body => do
    let values ← evaluateAll given scope defaults
    let names := (formals.filter (·.hasDefault)).map (·.name)
    let own := (formals.map (·.name) ++ Expr.assigned body).eraseDups
    allocate (.closure ⟨formals, names.zip values, body, scope, own, Expr.hands body⟩)
  | .comprehension form values clauses => do
    m.comprehend scope form values clauses (← firstSource given scope clauses)
  | .hand isAll value => do
    let value ← evaluate given scope value
    if isAll then
      (← m.collect value).forM fun item => do
        let _ ← handOver item
      return .nothing
    else handOver value
  | .wait _ => throw .unsuited

/-- The value of the source of the first clause. -/
def firstSource (given : Nat → Action Value) (scope : Scope) : List Clause → Action Value
  | .loop _ _ source :: _ => evaluate given scope source
  | _ => throw .unsuited

/-- The values of some expressions; one with a star stands for the items of its value. -/
def evaluateAll (given : Nat → Action Value) (scope : Scope) : List Expr → Action (List Value)
  | [] => return []
  | expr :: rest => do
    let values ← m.spread expr (← evaluate given scope expr)
    return values ++ (← evaluateAll given scope rest)

/-- The arguments of a call by position. One with a star stands for the items of its value; if it is
the `isLone` only one, these are taken when all others are known. -/
def evaluatePlaced (given : Nat → Action Value) (scope : Scope) (isLone : Bool) :
    List ArgumentForm → List Expr → Action (List Value)
  | .position :: forms, part :: parts => do
    let value ← evaluate given scope part
    return value :: (← evaluatePlaced given scope isLone forms parts)
  | .spread :: forms, part :: parts => do
    let value ← evaluate given scope part
    let values ← if isLone then pure [value] else m.collect value
    return values ++ (← evaluatePlaced given scope isLone forms parts)
  | _ :: forms, _ :: parts => evaluatePlaced given scope isLone forms parts
  | _, _ => return []

/-- The arguments of a call under names, after those known before. Names that follow one another are
joined to the `done` ones together. -/
def evaluateNamed (given : Nat → Action Value) (scope : Scope)
    (done pending : List (Value × Value)) :
    List ArgumentForm → List Expr → Action (List (Value × Value))
  | .name name :: forms, part :: parts => do
    let value ← evaluate given scope part
    evaluateNamed given scope done (pending ++ [(.text name, value)]) forms parts
  | .spreadNames :: forms, part :: parts => do
    let done ← merged done pending
    let value ← evaluate given scope part
    evaluateNamed given scope (← merged done (← m.spreadEntries value)) [] forms parts
  | _ :: forms, _ :: parts => evaluateNamed given scope done pending forms parts
  | _, _ => merged done pending

/-- The entries of a table that is written out, after those known before; a key waits for its
value. Keys that follow one another are looked at together. -/
def evaluateEntries (given : Nat → Action Value) (scope : Scope)
    (done pending : List (Value × Value)) :
    (key : Option Value) → List Bool → List Expr → Action (List (Value × Value))
  | none, true :: spreads, part :: parts => do
    Value.hashed (pending.map Prod.fst)
    let value ← evaluate given scope part
    let entries ← m.spreadEntries value
    evaluateEntries given scope (done ++ pending ++ entries) [] none spreads parts
  | none, spreads, part :: parts => do
    let key ← evaluate given scope part
    evaluateEntries given scope done pending (some key) spreads parts
  | some key, spreads, part :: parts => do
    let value ← evaluate given scope part
    evaluateEntries given scope done (pending ++ [(key, value)]) none spreads.tail parts
  | _, _, [] => return done ++ pending

/-- The members of a set that is written out, after those known before. From the first star on, each
is looked at before the next one. -/
def evaluateMembers (given : Nat → Action Value) (scope : Scope) (isStarred : Bool)
    (done : List Value) : List Expr → Action (List Value)
  | [] => return done
  | part :: parts => do
    let isStarred := isStarred || isStar part
    if isStarred then Value.hashed done else pure ()
    let values ← m.spread part (← evaluate given scope part)
    if isStarred then Value.hashed values else pure ()
    evaluateMembers given scope isStarred (done ++ values) parts

/-- The outcome of comparisons that follow one another: of the first one that does not hold, or of
the last one. -/
def chain (given : Nat → Action Value) (scope : Scope) (operators : List String) (left : Value) :
    List Expr → Action Value
  | [] => return left
  | expr :: rest => do
    let right ← evaluate given scope expr
    let outcome ← m.compare (operators.headD "") left right
    if rest.isEmpty || !(← m.truth outcome) then return outcome
    else chain given scope operators.tail right rest

end

end Machine

end TypeHint

end CallPlan
