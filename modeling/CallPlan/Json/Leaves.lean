import CallPlan.Json.Location

/-!
# CallPlan.Json.Leaves

The text leaves of a value, with their locations.

* `Json.leaves` lists them depth first, in the order of keys and indices.
* `Json.mapLeavesM` rebuilds a value with every text leaf replaced by what a function of its
  location and text gives, in the same order; everything else stays as it is. `Json.mapLeaves` is
  the case of a function without effects.
-/

namespace CallPlan

namespace Json

/-! ## Listing -/

/-- A leaf seen from one step further out. -/
def under {α : Type} (step : Location.Part) (leaf : Location × α) : Location × α :=
  (step :: leaf.1, leaf.2)

mutual

/-- The text leaves of a value, with their locations. -/
def leaves : Json → List (Location × String)
  | .str s => [([], s)]
  | .arr items => itemLeaves 0 items
  | .obj members => memberLeaves members
  | .null | .bool _ | .num _ => []

/-- The text leaves of the items of a list from an index on. -/
def itemLeaves (index : Nat) : List Json → List (Location × String)
  | [] => []
  | item :: rest => (leaves item).map (under (.index index)) ++ itemLeaves (index + 1) rest

/-- The text leaves of the members of an object. -/
def memberLeaves : List (String × Json) → List (Location × String)
  | [] => []
  | (key, value) :: rest => (leaves value).map (under (.key key)) ++ memberLeaves rest

end

/-! ## Rebuilding -/

section
variable {m : Type → Type} [Monad m]

mutual

/-- Rebuilds a value with every text leaf replaced. -/
def mapLeavesM (f : Location → String → m Json) : Json → m Json
  | .str s => f [] s
  | .arr items => .arr <$> mapItemLeavesM f 0 items
  | .obj members => .obj <$> mapMemberLeavesM f members
  | .null => pure .null
  | .bool b => pure (.bool b)
  | .num n => pure (.num n)

/-- Rebuilds the items of a list from an index on. -/
def mapItemLeavesM (f : Location → String → m Json) (index : Nat) : List Json → m (List Json)
  | [] => pure []
  | item :: rest => do
    let item ← mapLeavesM (fun place s => f (.index index :: place) s) item
    let rest ← mapItemLeavesM f (index + 1) rest
    return item :: rest

/-- Rebuilds the members of an object. -/
def mapMemberLeavesM (f : Location → String → m Json) :
    List (String × Json) → m (List (String × Json))
  | [] => pure []
  | (key, value) :: rest => do
    let value ← mapLeavesM (fun place s => f (.key key :: place) s) value
    let rest ← mapMemberLeavesM f rest
    return (key, value) :: rest

end

end

/-- Rebuilds a value with every text leaf replaced by a value. -/
def mapLeaves (f : Location → String → Json) (value : Json) : Json :=
  Id.run (value.mapLeavesM fun place s => pure (f place s))

end Json

end CallPlan
