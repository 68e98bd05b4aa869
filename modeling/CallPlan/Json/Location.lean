import CallPlan.Json.Basic

/-!
# CallPlan.Json.Location

Places inside a JSON value: the keys and indices to follow from its root, and their written form
`key.sub[0].leaf`.
-/

namespace CallPlan

/-- One step into a value: a key of an object or an index of a list. -/
inductive Location.Part where
  | key (name : String)
  | index (position : Int)
  deriving DecidableEq, Inhabited

/-- The steps from the root of a value to a place inside it. -/
abbrev Location := List Location.Part

namespace Location

/-- A whole number in decimal digits. -/
def intDigits (n : Int) : List Char :=
  if n < 0 then '-' :: Nat.toDigits 10 n.natAbs else Nat.toDigits 10 n.natAbs

/-- The written form of a location, after a text that is still empty (`atStart`) or not: a dot
stands before a key unless nothing stands before it. -/
def chars (atStart : Bool) : Location → List Char
  | [] => []
  | .index i :: rest => '[' :: (intDigits i ++ ']' :: chars false rest)
  | .key k :: rest =>
    if atStart then k.toList ++ chars k.toList.isEmpty rest
    else '.' :: (k.toList ++ chars false rest)

/-- The written form of a location, such as `key.sub[0].leaf`. -/
def text (location : Location) : String := String.ofList (location.chars true)

/-- A location as a JSON value: the list of its keys and indices. -/
def toJson (location : Location) : Json :=
  .arr (location.map fun
    | .key name => .str name
    | .index position => .int position)

end Location

namespace Json

/-- The value one step inside a value. -/
def part? : Json → Location.Part → Option Json
  | .obj members, .key name => Members.get? members name
  | .arr items, .index i => if i < 0 then none else items[i.toNat]?
  | _, _ => none

/-- The value at a location. -/
def at? : Json → Location → Option Json
  | value, [] => some value
  | value, step :: rest => (value.part? step).bind (·.at? rest)

@[simp] theorem at?_nil (value : Json) : value.at? [] = some value := rfl

theorem at?_cons (value : Json) (step : Location.Part) (rest : Location) :
    value.at? (step :: rest) = (value.part? step).bind (·.at? rest) := rfl

end Json

end CallPlan
