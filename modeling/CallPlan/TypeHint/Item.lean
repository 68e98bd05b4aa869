import CallPlan.TypeHint.Sequence
import CallPlan.TypeHint.TypeForm

/-!
# CallPlan.TypeHint.Item

What owners give for an index.

* A type gives its form with arguments, a sequence the item at a position or a stretch of it, a
  table the value under a key.
* Some tables make a value for a key that they lack.
-/

namespace CallPlan

namespace TypeHint

/-! ## Tables -/

/-- Whether two values are the same key of a table. -/
def sameKey (store : Store) (a b : Value) : Bool := store.identical a b || store.equal a b

/-- The value under a key among entries. -/
def under? (store : Store) (entries : List (Value × Value)) (key : Value) : Option Value :=
  (entries.find? fun (k, _) => sameKey store k key).map Prod.snd

/-- The address of a table, and its entries. -/
def table? (store : Store) (value : Value) : Option (Nat × List (Value × Value)) :=
  let at? (address : Nat) : Option (Nat × List (Value × Value)) :=
    match store.get? address with
    | some (.table entries) => some (address, entries)
    | _ => none
  match store.plainIn value with
  | .reference address | .view .whole address => at? address
  | _ => none

/-- Puts a value under a key of the table at an address. -/
def putEntry (address : Nat) (key value : Value) : Action Unit := do
  Value.hashed [key]
  match ← read address with
  | .table entries => write address (.table (Value.inserted (← get) entries key value))
  | _ => throw .unsuited

namespace Machine

variable (m : Machine)

/-- What a table gives for a key that it lacks. -/
def missingEntry (owner key : Value) (address : Nat) : Action Value := do
  match ← m.special? owner "__missing__" [key] with
  | some value => return value
  | none =>
    match owner with
    | .reference outer =>
      match ← read outer with
      | .record type fields _ =>
        match (← get).baseName type, List.lookup "default_factory" fields with
        | "Counter", _ => return .int 0
        | "defaultdict", some factory =>
          if factory.isNothing then throw .noKey
          else
            let value ← m.call factory ⟨[], []⟩
            putEntry address key value
            return value
        | _, _ => throw .noKey
      | _ => throw .noKey
    | _ => throw .noKey

/-- What a class that was made gives for an index. -/
def madeClassItem (type index : Value) : Action Value := do
  let store ← get
  match store.madeMember? type "__class_getitem__" with
  | some .nothing => throw .unsuited
  | some member =>
    let given := if ← isClosure member then [type, index] else [index]
    m.call member ⟨given, []⟩
  | none =>
    let base := store.baseName type
    if Class.isGeneric base && !Class.isBelow base "Generic" then
      return TypeForm.applyAny type index
    else throw .unsuited

/-- What an owner gives for an index. -/
def item (owner index : Value) : Action Value := do
  match ← m.special? owner "__getitem__" [index] with
  | some value => return value
  | none =>
    match owner with
    | .alias name => TypeForm.applyAlias name index
    | .form name => TypeForm.applyForm name index
    | .type name => TypeForm.applyClass name index
    | .generic .. | .applied .. | .choice _ => TypeForm.reapply owner index
    | owner =>
      let store ← get
      if TypeForm.isClass store owner then m.madeClassItem owner index
      else
        match Sequence.of? store owner, table? store owner, store.plainIn owner with
        | some sequence, _, _ =>
          match owner, ← m.sequenceItem sequence index with
          | .reference address, .bytes octets =>
            match ← read address with
            -- a part of a window is one on the same octets
            | .record (.type "memoryview") fields _ =>
              allocate (.record (.type "memoryview") fields (.bytes octets))
            | _ => return .bytes octets
          | _, item => return item
        | none, some (address, entries), _ => do
          Value.hashed [index]
          match under? store entries index with
          | some value => return value
          | none => m.missingEntry owner index address
        | none, none, .range start stop step => m.rangeItem start stop step index
        | none, none, _ => throw .unsuited

end Machine

end TypeHint

end CallPlan
