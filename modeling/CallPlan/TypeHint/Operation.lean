import CallPlan.TypeHint.Percent

/-!
# CallPlan.TypeHint.Operation

What operators make of values.

* An operator asks its left operand first, then its right one; classes that were made may answer for
  their values (`special`). Where nobody answers, the operands do not suit it.
* An upright line between types makes a type that is one of them.
-/

namespace CallPlan

namespace TypeHint

/-! ## Sets -/

/-- The items of a set, or of a view of a table that is like one; `isView` tells which. -/
def setItems? (store : Store) (value : Value) : Option (List Value × Bool) :=
  match store.plainIn value with
  | .frozenSet items => some (items, false)
  | .view .keys address =>
    match store.get? address with
    | some (.table entries) => some (entries.map Prod.fst, true)
    | _ => none
  | .view .entries address =>
    match store.get? address with
    | some (.table entries) => some (entries.map fun (k, v) => .tuple [k, v], true)
    | _ => none
  | .reference address =>
    match store.get? address with
    | some (.set items) => some (items, false)
    | _ => none
  | _ => none

/-- What an operator makes of the items of two sets. -/
def setOperation? (store : Store) (operator : String) (a b : List Value) : Option (List Value) :=
  match operator with
  | "-" => some (a.filter (!store.isAmong · b))
  | "&" => some (a.filter (store.isAmong · b))
  | "|" => some (store.distinct (a ++ b))
  | "^" => some (a.filter (!store.isAmong · b) ++ b.filter (!store.isAmong · a))
  | _ => none

/-! ## Order -/

/-- Whether one list of numbers is below another one. -/
def isBelowPoints : List Nat → List Nat → Bool
  | _, [] => false
  | [], _ :: _ => true
  | a :: as, b :: bs => if a = b then isBelowPoints as bs else decide (a < b)

/-- Whether an order holds between two values, where there is one; a step of fuel for each level of
them. -/
def ordered? (store : Store) (operator : String) : (fuel : Nat) → Value → Value → Option Bool
  | 0, _, _ => none
  | fuel + 1, left, right =>
    let decided (isBelow isAbove : Bool) : Bool :=
      match operator with
      | "<" => isBelow
      | ">" => isAbove
      | "<=" => !isAbove
      | _ => !isBelow
    let a := store.plainIn left
    let b := store.plainIn right
    match Numeral.of? a, Numeral.of? b with
    | some x, some y =>
      match x.isBelow y, y.isBelow x with
      | some below, some above =>
        if below || above then some (decided below above)
        -- what is no number stands in no order
        else some ((operator = "<=" || operator = ">=") && store.equal a b)
      | _, _ => none
    | _, _ =>
      match setItems? store a, setItems? store b with
      | some (xs, _), some (ys, _) =>
        let below := xs.all (store.isAmong · ys)
        let above := ys.all (store.isAmong · xs)
        some (match operator with
          | "<" => below && !above
          | ">" => above && !below
          | "<=" => below
          | _ => above)
      | _, _ =>
        match Sequence.of? store a, Sequence.of? store b with
        | some (.text x), some (.text y) => some (decided (isBelowPoints x y) (isBelowPoints y x))
        | some (.bytes x), some (.bytes y) | some (.bytes x), some (.octets y)
        | some (.octets x), some (.bytes y) | some (.octets x), some (.octets y) =>
          some (decided (isBelowPoints x y) (isBelowPoints y x))
        | some (.tuple xs), some (.tuple ys) | some (.list xs), some (.list ys) =>
          match (xs.zip ys).find? fun (x, y) => !store.equal x y with
          | some (x, y) => ordered? store operator fuel x y
          | none => some (decided (xs.length < ys.length) (ys.length < xs.length))
        | _, _ => none

namespace Machine

variable (m : Machine)

/-! ## What classes answer -/

/-- The names under which classes hold what an operator does. -/
def operatorNames : List (String × String) :=
  [("+", "add"), ("-", "sub"), ("*", "mul"), ("/", "truediv"), ("//", "floordiv"), ("%", "mod"),
    ("**", "pow"), ("@", "matmul"), ("&", "and"), ("|", "or"), ("^", "xor"), ("<<", "lshift"),
    (">>", "rshift")]

/-- The names under which classes hold comparisons, and the comparison the other way round. -/
def comparisonNames : List (String × String × String) :=
  [("==", "__eq__", "__eq__"), ("!=", "__ne__", "__ne__"), ("<", "__lt__", "__gt__"),
    (">", "__gt__", "__lt__"), ("<=", "__le__", "__ge__"), (">=", "__ge__", "__le__")]

/-- What the classes of two values answer: the left one under a name, then the right one. -/
def answered? (left right : Value) (name reflected : String) : Action (Option Value) := do
  match ← m.special? left name [right] with
  | some .notImplemented | none =>
    match ← m.special? right reflected [left] with
    | some .notImplemented | none => return none
    | some outcome => return some outcome
  | some outcome => return some outcome

/-! ## Operators -/

/-- What an operator makes of two values with items by position, of which one may be a number. -/
def sequenceOperation? (operator : String) (left right : Value) : Action (Option Value) := do
  let store ← get
  match operator, Sequence.of? store left, Sequence.of? store right with
  | "+", some a, some b =>
    match a.append? b with
    | some both => return some (← both.toValue)
    | none => throw .unsuited
  | "*", some a, none => repeated a right
  | "*", none, some b => repeated b left
  | "%", some (.text _), _ =>
    return some (.text (← m.percent (← Machine.text (← left.plain)) right))
  | "%", some (.bytes octets), _ => do
    let text ← m.percent (Quoted.textOf octets) right
    return some (.bytes (Text.points text.toList))
  | _, _, _ => return none
where
  /-- A sequence as many times as a value says. -/
  repeated (sequence : Sequence) (count : Value) : Action (Option Value) := do
    return some (← (← Value.lift (sequence.repeated (← m.index count))).toValue)

/-- What an operator makes of two sets. -/
def setsTogether? (operator : String) (left right : Value) : Action (Option Value) := do
  let store ← get
  let made (isFrozen : Bool) (items : Option (List Value)) : Action (Option Value) := do
    match items with
    | none => return none
    | some items =>
      if isFrozen then return some (.frozenSet items) else return some (← allocate (.set items))
  let isFrozen := match store.plainIn left with
    | .frozenSet _ => true
    | _ => false
  match setItems? store left, setItems? store right with
  | some (a, false), some (b, false) => made isFrozen (setOperation? store operator a b)
  | some (a, _), some (b, _) => made false (setOperation? store operator a b)
  | some (a, true), none =>
    if ["-", "&", "|", "^"].contains operator then
      made false (setOperation? store operator a (← m.collect right))
    else return none
  | none, some (b, true) =>
    if ["-", "&", "|", "^"].contains operator then
      made false (setOperation? store operator (← m.collect left) b)
    else return none
  | _, _ => return none

/-- A table with the marks of another one on it. -/
def likeTable (store : Store) (model table : Value) : Action Value := do
  match model with
  | .reference address =>
    match store.get? address with
    | some (.record type fields _) => allocate (.record type fields table)
    | _ => return table
  | _ => return table

/-- What an operator makes of two tables. -/
def tablesTogether? (operator : String) (left right : Value) : Action (Option Value) := do
  let store ← get
  match operator, table? store left, table? store right with
  | "|", some (_, a), some (_, b) =>
    let table ← Value.table (b.foldl (fun found (k, v) => Value.inserted store found k v) a)
    let isMarked := (store.className left = "dict" && store.className right ≠ "dict")
    return some (← likeTable store (if isMarked then right else left) table)
  | _, _, _ => return none

/-- Whether a count is above zero. -/
def isPositive (store : Store) (count : Value) : Bool :=
  ordered? store ">" Store.depthLimit count (.int 0) = some true

/-- What an operator makes of two tables that count items: only counts above zero are kept. -/
def countsTogether? (operator : String) (left right : Value) : Action (Option Value) := do
  let store ← get
  let isCounted := store.className left = "Counter" && store.className right = "Counter" &&
    ["+", "-", "|", "&"].contains operator
  match isCounted, table? store left, table? store right with
  | true, some (_, a), some (_, b) =>
    let count (entries : List (Value × Value)) (key : Value) : Value :=
      (under? store entries key).getD (.int 0)
    let joined (x y : Value) : Except Fault Value :=
      let isLess := ordered? store "<" Store.depthLimit x y = some true
      match operator with
      | "|" => .ok (if isLess then y else x)
      | "&" => .ok (if isLess then x else y)
      | operator => do
        match ← Numeral.ofValues operator x y with
        | some value => return value
        | none => throw .unsuited
    let others := b.filter fun (key, _) => (under? store a key).isNone
    let entries ← Value.lift ((a ++ others).mapM fun (key, _) => do
      return (key, ← joined (count a key) (count b key)))
    let table ← Value.table (entries.filter fun (_, count) => isPositive store count)
    return some (← Value.record "Counter" [] table)
  | _, _, _ => return none

/-- What a sign makes of a value. -/
def unary (operator : String) (value : Value) : Action Value := do
  match operator with
  | "not" => return .bool (!(← m.truth value))
  | operator =>
    let name := if operator = "-" then "__neg__" else if operator = "+" then "__pos__"
      else "__invert__"
    match ← m.special? value name [] with
    | some outcome => return outcome
    | none =>
      match (Numeral.of? (← value.plain)).bind (Numeral.signed operator) with
      | some outcome => return outcome.toValue
      | none =>
        let none' ← Value.record "Counter" [] (← Value.table [])
        let counts? ← match operator with
          | "+" => countsTogether? "+" value none'
          | "-" => countsTogether? "-" none' value
          | _ => pure none
        match counts? with
        | some outcome => return outcome
        | none => throw .unsuited

/-- What an operator makes of two values. -/
def binary (operator : String) (left right : Value) : Action Value := do
  let name := (List.lookup operator operatorNames).getD ""
  match ← m.answered? left right ("__" ++ name ++ "__") ("__r" ++ name ++ "__") with
  | some outcome => return outcome
  | none =>
    let type? ← if operator = "|" then TypeForm.either? left right else pure none
    match type?, ← Value.lift (Numeral.ofValues operator (← left.plain) (← right.plain)) with
    | some type, _ => return type
    | none, some number => return number
    | none, none =>
      match ← m.sequenceOperation? operator left right with
      | some outcome => return outcome
      | none =>
        match ← m.setsTogether? operator left right with
        | some outcome => return outcome
        | none =>
          match ← countsTogether? operator left right with
          | some outcome => return outcome
          | none =>
            match ← tablesTogether? operator left right with
            | some outcome => return outcome
            | none => throw .unsuited

/-! ## Comparisons -/

/-- Whether two values are equal. -/
def same (left right : Value) : Action Bool := do
  match ← m.answered? left right "__eq__" "__eq__" with
  | some outcome => m.truth outcome
  | none => Value.same left right

/-- Whether a value is among the items of another one. -/
def isIn (item source : Value) : Action Bool := do
  match ← m.special? source "__contains__" [item] with
  | some outcome => m.truth outcome
  | none =>
    let store ← get
    let among (items : List Value) : Bool := items.any (sameKey store item)
    match Sequence.of? store source, setItems? store source, table? store source with
    | some (.text points), _, _ =>
      match store.plainIn item with
      | .text s => return (placeOf? (Text.points s.toList) points).isSome
      | _ => throw .unsuited
    | some (.bytes octets), _, _ | some (.octets octets), _, _ => isOctetIn store octets
    | none, some (items, isView), _ =>
      let isSet := match item with
        | .reference address =>
          match store.get? address with
          | some (.set _) => true
          | _ => false
        | _ => false
      if !isView && !isSet then Value.hashed [item] else pure ()
      return among items
    | none, none, some (_, entries) => do
      Value.hashed [item]
      return entries.any fun (key, _) => sameKey store item key
    | _, _, _ =>
      match store.plainIn source with
      | .range start stop step =>
        match (store.plainIn item).int? with
        | some n =>
          let size := Stretch.count start stop step
          let k := (n - start) / step
          return decide ((n - start) % step = 0 ∧ 0 ≤ k ∧ k < size)
        | none => m.foldItems source false fun _ value => do
          let found := store.equal item value
          return (found, found)
      | _ => m.foldItems source false fun _ value => do
        let found := (← get).identical item value || (← m.same value item)
        return (found, found)
where
  /-- Whether an octet, or some of them, are among others. -/
  isOctetIn (store : Store) (octets : List Nat) : Action Bool := do
    match Sequence.of? store item with
    | some (.bytes part) | some (.octets part) => return (placeOf? part octets).isSome
    | _ =>
      let n ← m.index item
      if n < 0 || 256 ≤ n then throw (.badValue "byte must be in range(0, 256)")
      else return octets.contains n.toNat

/-- The outcome of one comparison. -/
def compare (operator : String) (left right : Value) : Action Value := do
  match operator with
  | "is" => return .bool ((← get).identical left right)
  | "is not" => return .bool (!(← get).identical left right)
  | "in" => return .bool (← m.isIn left right)
  | "not in" => return .bool (!(← m.isIn left right))
  | operator =>
    let (name, reflected) := (List.lookup operator comparisonNames).getD ("", "")
    match ← m.answered? left right name reflected with
    | some outcome => return outcome
    | none =>
      match operator with
      | "==" => return .bool (← m.same left right)
      | "!=" => return .bool (!(← m.same left right))
      | operator =>
        match ordered? (← get) operator Store.depthLimit left right with
        | some outcome => return .bool outcome
        | none => throw .unsuited

/-- Whether one value stands before another one. -/
def isBefore (left right : Value) : Action Bool := do m.truth (← m.compare "<" left right)

end Machine

end TypeHint

end CallPlan
