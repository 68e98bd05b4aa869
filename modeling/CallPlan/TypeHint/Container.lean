import CallPlan.TypeHint.Operation
import CallPlan.TypeHint.TextMethod

/-!
# CallPlan.TypeHint.Container

What lists, tables and sets do.

* What changes a container writes it to the store again; a deque, and other containers that are made
  of a plain one, change the plain one.
* A list is sorted by insertion, so that items that stand in no order to one another keep theirs.
-/

namespace CallPlan

namespace TypeHint

namespace Machine

variable (m : Machine)

/-! ## Order -/

/-- Whether an action holds for two items. -/
abbrev Before := Value → Value → Action Bool

/-- An item put into a sorted list, behind those that it does not stand before. -/
def insertSorted (before : Before) (item : Value × Value) :
    List (Value × Value) → Action (List (Value × Value))
  | [] => return [item]
  | other :: rest => do
    if ← before item.1 other.1 then return item :: other :: rest
    else return other :: (← insertSorted before item rest)

/-- Items sorted by what a function makes of them. -/
def sorted (items : List Value) (key : Value) (isReversed : Bool) : Action (List Value) := do
  let keyed ← items.mapM fun item => do
    if key.isNothing then return (item, item) else return (← m.call key ⟨[item], []⟩, item)
  let keyed := if isReversed then keyed.reverse else keyed
  let sorted ← keyed.foldlM (fun found item => insertSorted m.isBefore item found) []
  return (if isReversed then sorted.reverse else sorted).map Prod.snd

/-! ## Lists -/

/-- The first place of a value in a list. -/
def placeAmong (value : Value) : (position : Nat) → List Value → Action (Option Nat)
  | _, [] => return none
  | k, item :: rest => do
    if (← get).identical item value || (← m.same item value) then return some k
    else placeAmong value (k + 1) rest

/-- How many items of a list equal a value. -/
def countAmong (value : Value) (items : List Value) : Action Nat :=
  items.foldlM (fun count item => do
    return if (← get).identical item value || (← m.same item value) then count + 1 else count) 0

/-- What is said about a value that a list lacks. -/
def lacking (kind : String) (value : Value) : Action Fault := do
  match kind with
  | "tuple" => return .badValue "tuple.index(x): x not in tuple"
  | "deque" | "list" => return .badValue ((← m.literal value) ++ " is not in " ++ kind)
  | kind => return .badValue (kind ++ ".index(x): x not in " ++ kind)

/-- The place of a value in a list, between two bounds. -/
def indexIn (kind : String) (items : List Value) (given : Arguments) : Action Value := do
  let found ← Value.lift (given.placed ["", "", ""] 1)
  let value := (Arguments.at? found 0).getD .nothing
  let size : Int := items.length
  let clip (n : Int) : Nat := (if n < 0 then max 0 (n + size) else min n size).toNat
  let start := clip ((← m.bound? (Arguments.at? found 1)).getD 0)
  let stop := clip ((← m.bound? (Arguments.at? found 2)).getD size)
  match ← m.placeAmong value start ((items.take stop).drop start) with
  | some k => return .int (k : Nat)
  | none => throw (← m.lacking kind value)

/-- What a list, or a deque, does under a name. -/
def listMethod? (address : Nat) (items : List Value) (isDeque : Bool) (limit : Option Nat)
    (name : String) (given : Arguments) : Action (Option Value) := do
  let kind := if isDeque then "deque" else "list"
  let cut (items : List Value) (isLeft : Bool) : List Value :=
    match limit with
    | none => items
    | some n => if isLeft then items.take n else items.drop (items.length - n)
  let put (items : List Value) : Action (Option Value) := do
    write address (.list items)
    return some .nothing
  let one : Action Value := do
    let found ← Value.lift (given.placed [""] 1)
    return (Arguments.at? found 0).getD .nothing
  let none' : Action Unit := do
    let _ ← Value.lift (given.placed [] 0)
  match name, isDeque with
  | "append", _ => put (cut (items ++ [← one]) false)
  | "appendleft", true => put (cut ((← one) :: items) true)
  | "extend", _ => put (cut (items ++ (← m.collect (← one))) false)
  | "extendleft", true => put (cut ((← m.collect (← one)).reverse ++ items) true)
  | "clear", _ => do
    none'
    put []
  | "copy", _ => do
    none'
    let copy ← Value.list items
    if isDeque then
      return some (← Value.record "deque" [("maxlen", (limit.map fun (n : Nat) =>
        .int n).getD .nothing)] copy)
    else return some copy
  | "count", _ => return some (.int ((← m.countAmong (← one) items : Nat)))
  | "index", _ => return some (← m.indexIn kind items given)
  | "insert", _ =>
    let found ← Value.lift (given.placed ["", ""] 2)
    let n ← m.index ((Arguments.at? found 0).getD .nothing)
    let size : Int := items.length
    let k := (if n < 0 then max 0 (n + size) else min n size).toNat
    if limit.any (· ≤ items.length) then throw ⟨"IndexError", ""⟩
    else put (items.take k ++ [(Arguments.at? found 1).getD .nothing] ++ items.drop k)
  | "pop", _ | "popleft", true =>
    let found ← Value.lift (given.placed (if isDeque then [] else [""]) 0)
    let n := (← m.bound? (Arguments.at? found 0)).getD (if name = "pop" then -1 else 0)
    match Stretch.position? items.length n with
    | none => throw .noPosition
    | some k =>
      write address (.list (items.eraseIdx k))
      return items[k]?
  | "remove", _ =>
    let value ← one
    match ← m.placeAmong value 0 items with
    | some k => put (items.eraseIdx k)
    | none =>
      if isDeque then throw (← m.lacking kind value)
      else throw (.badValue "list.remove(x): x not in list")
  | "reverse", _ => do
    none'
    put items.reverse
  | "rotate", true =>
    let found ← Value.lift (given.placed [""] 0)
    let n := (← m.bound? (Arguments.at? found 0)).getD 1
    if items.isEmpty then put items
    else
      let k := (n.fmod items.length).toNat
      put (items.drop (items.length - k) ++ items.take (items.length - k))
  | "sort", false =>
    let key := (List.lookup "key" given.named).getD .nothing
    let isReversed ← m.truth ((List.lookup "reverse" given.named).getD (.bool false))
    if !given.values.isEmpty || given.named.any fun (n, _) => n ≠ "key" && n ≠ "reverse" then
      throw .unsuited
    else put (← m.sorted items key isReversed)
  | _, _ => return none

/-! ## Tables -/

/-- The entries that a value gives for a table: those of a table, or pairs. -/
def entriesOf (value : Value) : Action (List (Value × Value)) := do
  match table? (← get) value with
  | some (_, entries) => return entries
  | none =>
    match ← m.attribute? value "keys" with
    | some keys =>
      (← m.collect (← m.call keys ⟨[], []⟩)).mapM fun key => do return (key, ← m.item value key)
    | none =>
      let entries ← m.foldItems value [] fun (entries : List (Value × Value)) item => do
        match ← attempt ["TypeError"] (m.collect item) with
        | none => throw .unsuited
        | some [key, value] =>
          Value.hashed [key]
          return ((key, value) :: entries, false)
        | some parts =>
          throw (.badValue ("dictionary update sequence element #" ++ toString entries.length ++
            " has length " ++ toString parts.length ++ "; 2 is required"))
      return entries.reverse

/-- Entries written into the table at an address. -/
def updateTable (address : Nat) (entries : List (Value × Value)) : Action Unit :=
  entries.forM fun (key, value) => putEntry address key value

/-- Named arguments as entries. -/
def namedEntries (named : List (String × Value)) : List (Value × Value) :=
  named.map fun (name, value) => (.text name, value)

/-- What a table does under a name. -/
def tableMethod? (address : Nat) (entries : List (Value × Value)) (name : String)
    (given : Arguments) : Action (Option Value) := do
  let put (entries : List (Value × Value)) : Action (Option Value) := do
    write address (.table entries)
    return some .nothing
  let without (key : Value) : Action (List (Value × Value)) := do
    let store ← get
    return entries.filter fun (k, _) => !sameKey store k key
  let keyed (required : Nat) : Action (Value × Option Value) := do
    let found ← Value.lift (given.placed ["", ""] required)
    let key := (Arguments.at? found 0).getD .nothing
    Value.hashed [key]
    return (key, Arguments.at? found 1)
  let none' : Action Unit := do
    let _ ← Value.lift (given.placed [] 0)
  match name with
  | "clear" => do
    none'
    put []
  | "copy" => do
    none'
    return some (← Value.table entries)
  | "get" =>
    let (key, default) ← keyed 1
    return some ((under? (← get) entries key).getD (default.getD .nothing))
  | "setdefault" =>
    let (key, default) ← keyed 1
    match under? (← get) entries key with
    | some value => return some value
    | none =>
      putEntry address key (default.getD .nothing)
      return some (default.getD .nothing)
  | "pop" =>
    let (key, default) ← keyed 1
    match under? (← get) entries key, default with
    | some value, _ =>
      let _ ← put (← without key)
      return some value
    | none, some value => return some value
    | none, none => throw .noKey
  | "popitem" =>
    match entries.getLast? with
    | none => throw .noKey
    | some (key, value) =>
      let _ ← put entries.dropLast
      return some (.tuple [key, value])
  | "keys" | "values" | "items" => do
    none'
    return some (.view (if name = "keys" then .keys else if name = "values" then .values
      else .entries) address)
  | "update" =>
    match given.values with
    | [] => updateTable address (namedEntries given.named)
    | [value] =>
      updateTable address (← m.entriesOf value)
      updateTable address (namedEntries given.named)
    | _ => throw .unsuited
    return some .nothing
  | "move_to_end" =>
    let found ← Value.lift (given.placed ["key", "last"] 1)
    let key := (Arguments.at? found 0).getD .nothing
    let isLast ← m.truth ((Arguments.at? found 1).getD (.bool true))
    match under? (← get) entries key with
    | none => throw .noKey
    | some value =>
      let rest ← without key
      put (if isLast then rest ++ [(key, value)] else (key, value) :: rest)
  | "most_common" =>
    let found ← Value.lift (given.placed ["n"] 0)
    let limit ← m.bound? (Arguments.at? found 0)
    let pairs := entries.map fun (k, v) => Value.tuple [k, v]
    let sorted ← (entries.zip pairs).reverse.foldlM (fun found ((_, v), pair) =>
      insertSorted m.isBefore (v, pair) found) []
    let pairs := (sorted.reverse.map Prod.snd)
    return some (← Value.list (match limit with
      | some n => pairs.take n.toNat
      | none => pairs))
  | "elements" =>
    let items ← entries.mapM fun (k, v) => do
      return List.replicate (← m.index v).toNat k
    return some (← Value.stream "chain" items.flatten)
  | "total" =>
    let sum ← entries.foldlM (fun sum (_, v) => m.binary "+" sum v) (Value.int 0)
    return some sum
  | _ => return none

/-! ## Sets -/

/-- What a set does under a name; `address` is where it stands, if it can change. -/
def setMethod? (address : Option Nat) (items : List Value) (name : String) (given : Arguments) :
    Action (Option Value) := do
  let put (items : List Value) : Action (Option Value) := do
    match address with
    | some address =>
      write address (.set items)
      return some .nothing
    | none => throw .noAttribute
  let made (items : List Value) : Action (Option Value) := do
    match address with
    | some _ => return some (← allocate (.set items))
    | none => return some (.frozenSet items)
  let one : Action Value := do
    let found ← Value.lift (given.placed [""] 1)
    return (Arguments.at? found 0).getD .nothing
  let other : Action (List Value) := do
    let items ← m.collect (← one)
    Value.hashed items
    return (← get).distinct items
  let folded (operator : String) : Action (List Value) := do
    let others ← (← Value.lift given.unnamed).mapM fun value => do
      let items ← m.collect value
      Value.hashed items
      return items
    let store ← get
    return others.foldl (fun found other => (setOperation? store operator found other).getD found)
      items
  let operators := [("union", "|"), ("intersection", "&"), ("difference", "-")]
  let updates := [("update", "|"), ("intersection_update", "&"), ("difference_update", "-")]
  match List.lookup name operators, List.lookup name updates with
  | some operator, _ => made (← folded operator)
  | none, some operator => put (← folded operator)
  | none, none =>
    let store ← get
    match name with
    | "symmetric_difference" => made ((setOperation? store "^" items (← other)).getD [])
    | "symmetric_difference_update" => put ((setOperation? store "^" items (← other)).getD [])
    | "isdisjoint" => return some (.bool (!(← other).any (store.isAmong · items)))
    | "issubset" =>
      let other ← other
      return some (.bool (items.all (store.isAmong · other)))
    | "issuperset" => return some (.bool ((← other).all (store.isAmong · items)))
    | "copy" => made items
    | "clear" => put []
    | "add" =>
      let value ← one
      Value.hashed [value]
      put (if store.isAmong value items then items else items ++ [value])
    | "discard" | "remove" =>
      let value ← one
      Value.hashed [value]
      if name = "remove" && !store.isAmong value items then throw .noKey
      else put (items.filter fun item => !store.equal item value)
    | "pop" =>
      match items with
      | [] => throw .noKey
      | item :: rest =>
        let _ ← put rest
        return some item
    | _ => return none

end Machine

end TypeHint

end CallPlan
