import CallPlan.Json.Literal
import CallPlan.Json.Location

/-!
# CallPlan.Json.Path

Paths that are given as values.

* A path is what a value gives one after the other. A step that is a text is a key, and one that is
  a whole number or a truth value is an index; any other value leads nowhere, but has a written form
  unless a number in it is too long.
* A path of keys and indices is written like the location that it is (`chars_ofLocation`).
-/

namespace CallPlan

namespace Json

/-- What a value gives one after the other: the items of a list, the keys of an object, the
characters of a text. -/
def elements? : Json → Option (List Json)
  | .arr items => some items
  | .obj members => some ((Members.keys members).map .str)
  | .str text => some ((Text.points text.toList).map fun n => .str (String.ofList (Text.ofPoint n)))
  | _ => none

/-- Whether a value has parts of its own. -/
def isCompound : Json → Bool
  | .arr _ | .obj _ => true
  | _ => false

end Json

namespace Path

/-- The keys that the steps of a path are, if all of them are keys. -/
def keys? (path : List Json) : Option (List String) :=
  path.mapM fun
    | .str key => some key
    | _ => none

/-- The keys that a path starts with, and the steps behind them. -/
def leadingKeys : List Json → List String × List Json
  | .str key :: rest => (key :: (leadingKeys rest).1, (leadingKeys rest).2)
  | path => ([], path)

/-- A path of keys alone starts with all of them. -/
theorem leadingKeys_keys (keys : List String) : leadingKeys (keys.map .str) = (keys, []) := by
  induction keys with
  | nil => rfl
  | cons key keys ih => simp [leadingKeys, ih]

/-- An index between its brackets. -/
def index? : Json → Option (List Char)
  | .num (.int i) => some (Location.intDigits i)
  | .bool b => some (Json.bool b).literal
  | _ => none

/-- The form of a path, after a text that is still empty (`atStart`) or not. Where nothing stands
before it, a step must be a key or an index. -/
def chars (atStart : Bool) : List Json → Option (List Char)
  | [] => some []
  | step :: rest =>
    match index? step, step with
    | some index, _ => (chars false rest).map fun cs => '[' :: (index ++ ']' :: cs)
    | none, .str key =>
      if atStart then (chars key.toList.isEmpty rest).map (key.toList ++ ·)
      else (chars false rest).map fun cs => '.' :: (key.toList ++ cs)
    | none, _ =>
      if atStart then none
      else (chars false rest).map fun cs => '.' :: (step.display.toList ++ cs)

/-- The text of a path, if it has one. -/
def text? (path : List Json) : Option String :=
  if path.all Json.isShort then (chars true path).map String.ofList else none

/-- The steps of a location. -/
def ofLocation (location : Location) : List Json :=
  location.map fun
    | .key name => .str name
    | .index position => .num (.int position)

/-- A path of keys and indices has the form of the location that it is. -/
theorem chars_ofLocation (atStart : Bool) (location : Location) :
    chars atStart (ofLocation location) = some (location.chars atStart) := by
  induction location generalizing atStart with
  | nil => rfl
  | cons step rest ih =>
    cases step with
    | key name =>
      have steps : ofLocation (.key name :: rest) = .str name :: ofLocation rest := rfl
      cases atStart <;> simp [steps, chars, ih, Location.chars]
    | index position =>
      have steps : ofLocation (.index position :: rest) =
          .num (.int position) :: ofLocation rest := rfl
      simp [steps, chars, index?, ih, Location.chars]

end Path

end CallPlan
