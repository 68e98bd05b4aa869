import CallPlan.TypeHint.Machine
import CallPlan.TypeHint.Shown

/-!
# CallPlan.TypeHint.Sequence

Values that have items by position: texts, bytes, tuples and lists.

* A negative position counts from the end, and a stretch is cut to the items that there are
  (`positions`).
* Two sequences of one kind can be put one after the other, and one can be repeated.
-/

namespace CallPlan

namespace TypeHint

/-! ## Positions -/

namespace Stretch

/-- The positions from a start on, in steps: those below a size, at most. -/
def places (start step : Int) (count : Nat) : List Nat :=
  (List.range count).map fun k => (start + Int.ofNat k * step).toNat

/-- How many steps lead from a start to before a stop. -/
def count (start stop step : Int) : Nat :=
  (if step < 0 then (start - stop - step - 1) / -step else (stop - start + step - 1) / step).toNat

/-- The bounds and the step of a slice, where they count from the end or are left out. -/
def bounds (size : Nat) (start stop step : Option Int) : Except Fault (Int × Int × Int) :=
  let step := step.getD 1
  if step = 0 then .error (.badValue "slice step cannot be zero")
  else
    let size : Int := size
    let low : Int := if step < 0 then -1 else 0
    let high : Int := if step < 0 then size - 1 else size
    let place (bound : Option Int) (default : Int) : Int :=
      match bound with
      | none => default
      | some n => if n < 0 then max low (n + size) else min high n
    .ok (place start (if step < 0 then high else low), place stop (if step < 0 then low else high),
      step)

/-- The positions that a slice asks for among a number of items. -/
def positions (size : Nat) (start stop step : Option Int) : Except Fault (List Nat) := do
  let (start, stop, step) ← bounds size start stop step
  return places start step (count start stop step)

/-- The position that a number asks for among a number of items. -/
def position? (size : Nat) (n : Int) : Option Nat :=
  let n := if n < 0 then n + size else n
  if 0 ≤ n && n < size then some n.toNat else none

end Stretch

/-! ## Sequences -/

/-- A value with items by position. -/
inductive Sequence where
  | text (points : List Nat)
  | bytes (octets : List Nat)
  | octets (octets : List Nat)
  | tuple (items : List Value)
  | list (items : List Value)

/-- The most items that a value may have. -/
def sizeLimit : Nat := 2000000

namespace Sequence

/-- The sequence that a value is. -/
def of? (store : Store) (value : Value) : Option Sequence :=
  match store.plainIn value with
  | .text s => some (.text (Text.points s.toList))
  | .bytes os => some (.bytes os)
  | .tuple items => some (.tuple items)
  | .reference address =>
    match store.get? address with
    | some (.list items) => some (.list items)
    | some (.octets os) => some (.octets os)
    | _ => none
  | _ => none

/-- A sequence as a new value. -/
def toValue : Sequence → Action Value
  | .text points => return .text (Quoted.textOf points)
  | .bytes os => return .bytes os
  | .octets os => allocate (.octets os)
  | .tuple items => return .tuple items
  | .list items => Value.list items

/-- How many items there are. -/
def size : Sequence → Nat
  | .text points => points.length
  | .bytes os | .octets os => os.length
  | .tuple items | .list items => items.length

/-- The item at a position. -/
def item? : Sequence → Nat → Option Value
  | .text points, k => points[k]?.map fun n => .text (Quoted.textOf [n])
  | .bytes os, k | .octets os, k => os[k]?.map fun (n : Nat) => .int n
  | .tuple items, k | .list items, k => items[k]?

/-- The items at some positions. -/
def select (positions : List Nat) : Sequence → Sequence
  | .text points => .text (pick points.toArray)
  | .bytes os => .bytes (pick os.toArray)
  | .octets os => .octets (pick os.toArray)
  | .tuple items => .tuple (pick items.toArray)
  | .list items => .list (pick items.toArray)
where
  /-- The items of an array at the positions. -/
  pick {α : Type} (items : Array α) : List α := positions.filterMap (items[·]?)

/-- Two sequences of one kind, one after the other. -/
def append? : Sequence → Sequence → Option Sequence
  | .text a, .text b => some (.text (a ++ b))
  | .bytes a, .bytes b | .bytes a, .octets b => some (.bytes (a ++ b))
  | .octets a, .octets b | .octets a, .bytes b => some (.octets (a ++ b))
  | .tuple a, .tuple b => some (.tuple (a ++ b))
  | .list a, .list b => some (.list (a ++ b))
  | _, _ => none

/-- A sequence a number of times. -/
def repeated (n : Int) (sequence : Sequence) : Except Fault Sequence :=
  let times := n.toNat
  let many {α : Type} (items : List α) : List α := (List.replicate times items).flatten
  if sequence.size = 0 then .ok sequence
  else if sizeLimit < times * sequence.size then .error ⟨"MemoryError", ""⟩
  else
    .ok (match sequence with
      | .text points => .text (many points)
      | .bytes os => .bytes (many os)
      | .octets os => .octets (many os)
      | .tuple items => .tuple (many items)
      | .list items => .list (many items))

end Sequence

/-! ## Parts of lists -/

/-- The first place of a part in a list. -/
def placeOf? {α : Type} [BEq α] (part : List α) : List α → Option Nat
  | [] => if part.isEmpty then some 0 else none
  | item :: items =>
    if part.isPrefixOf (item :: items) then some 0 else (placeOf? part items).map (· + 1)

namespace Machine

variable (m : Machine)

/-- The bounds of a slice. -/
def sliceBounds (start stop step : Value) : Action (Option Int × Option Int × Option Int) := do
  let bound (value : Value) : Action (Option Int) := do
    if value.isNothing then return none else return some (← m.index value)
  return (← bound start, ← bound stop, ← bound step)

/-- What a sequence gives for an index: an item, or a stretch of it. -/
def sequenceItem (sequence : Sequence) (index : Value) : Action Value := do
  match index with
  | .slice start stop step =>
    let (start, stop, step) ← m.sliceBounds start stop step
    let positions ← Value.lift (Stretch.positions sequence.size start stop step)
    (sequence.select positions).toValue
  | index =>
    let n ← m.index index
    match (Stretch.position? sequence.size n).bind sequence.item? with
    | some value => return value
    | none => throw .noPosition

/-- What a stretch of whole numbers gives for an index. -/
def rangeItem (first last stride : Int) (index : Value) : Action Value := do
  let size := Stretch.count first last stride
  match index with
  | .slice start stop step =>
    let (start, stop, step) ← m.sliceBounds start stop step
    let (start, stop, step) ← Value.lift (Stretch.bounds size start stop step)
    return .range (first + start * stride) (first + stop * stride) (step * stride)
  | index =>
    match Stretch.position? size (← m.index index) with
    | some k => return .int (first + k * stride)
    | none => throw .noPosition

end Machine

end TypeHint

end CallPlan
