import CallPlan.Json.Path
import CallPlan.Text.Sorted

/-!
# CallPlan.Validation.Field

Fields of JSON Schemas.

* `TypeSet` is the set of types that a schema declares, whether it names one or lists several. What
  is listed is taken for its written form, so a list with a number of too many digits has no set.
* `Schema.field` finds a path of an output schema. It looks where a run looks: at the top level, and
  inside the schema of the artifact when the top level does not declare the first key. What lies
  inside an array has no fields.
* `Schema.typeAt` is the type that an input schema declares at a location of the arguments.
* `Schema.along?` and `Schema.typeAlong?` take paths of any values, of which some steps may be no
  keys; along keys alone they find what is found otherwise (`along?_keys`).
-/

namespace CallPlan

/-- The types that a schema declares: distinct words in increasing order. -/
abbrev TypeSet := List String

namespace TypeSet

/-- The set of types that a declaration names, unless one of several cannot be written; an absent or
empty declaration names none. -/
def ofDeclared? : Option Json → Except LongNumber (Option TypeSet)
  | some (.str name) => .ok (some [name])
  | some (.arr (first :: rest)) =>
    if (first :: rest).all Json.isShort then
      .ok (some (Text.sortedSet ((first :: rest).map Json.display)))
    else .error {}
  | _ => .ok none

/-- A set of types as it is shown: a single type as its word, several as a list. -/
def display : TypeSet → Json
  | [name] => .str name
  | names => .arr (names.map .str)

end TypeSet

/-- The result of looking for a field. -/
inductive FieldSearch where
  /-- The schema of the field. -/
  | found (schema : Json)
  /-- The key that is not declared, and the keys that are declared in its place. -/
  | missing (segment : String) (siblings : List String)
  /-- A schema on the way lists a type that cannot be written, so that it cannot be told whether it
  is one of a list. -/
  | longType (long : LongNumber)
  deriving DecidableEq, Inhabited

namespace Schema

/-- The declared properties of a schema. -/
def properties (schema : Json) : Members :=
  match schema.get? "properties" with
  | some (.obj ms) => ms
  | _ => []

/-- Whether a schema declares a list and nothing else, if its types can be told. -/
def isArray (schema : Json) : Except LongNumber Bool :=
  (TypeSet.ofDeclared? (schema.get? "type")).map (· = some ["array"])

/-- The properties in which a path is looked for; a list has none. -/
def searched (schema : Json) : Members :=
  match isArray schema with
  | .ok false => properties schema
  | _ => []

/-- Follows a path through nested properties. A null schema at its end declares nothing, and no key
is to blame for that. -/
def walk (schema : Json) : List String → FieldSearch
  | [] => if schema = .null then .missing "" [] else .found schema
  | key :: rest =>
    match isArray schema, Members.get? (searched schema) key with
    | .error long, _ => .longType long
    | .ok _, some inner => walk inner rest
    | .ok _, none => .missing key (searched schema).keys

/-- Finds a field of an output schema: at the top level, else inside the schema of the artifact if
the top level declares an artifact but not the first key. A path whose first key is unknown in both
places is reported with the keys of the top level. -/
def field (schema : Json) (path : List String) : FieldSearch :=
  match walk schema path with
  | .found inner => .found inner
  | .longType long => .longType long
  | .missing segment siblings =>
    let top := properties schema
    match path, Members.get? top "artifact" with
    | first :: _, some artifact =>
      if segment = first && !Members.contains top first then
        match walk artifact path with
        | .found inner => .found inner
        | .longType long => .longType long
        | .missing nested nestedSiblings =>
          if nested = first then .missing segment siblings
          else .missing nested nestedSiblings
      else .missing segment siblings
    | _, _ => .missing segment siblings

/-- The schema one step further in, at a key or an index of the arguments. -/
def inside? (schema : Json) : Location.Part → Option Json
  | .key name => Members.get? (properties schema) name
  | .index _ => schema.get? "items"

/-- The types that an input schema declares at a location, unless one of several cannot be written;
none if the schema is silent there. -/
def typeAt (schema : Json) : Location → Except LongNumber (Option TypeSet)
  | [] => TypeSet.ofDeclared? (schema.get? "type")
  | step :: rest =>
    match inside? schema step with
    | some inner => typeAt inner rest
    | none => .ok none

/-! ## Paths of any values -/

/-- What is found along a path of any values: the schema, or null with the step that is not declared
and the keys that are declared in its place. -/
structure Along where
  found : Json
  step : Json
  siblings : List String
  deriving DecidableEq, Inhabited

/-- What is found behind a schema: a step that is no key is declared nowhere, and nothing can be
said about one that has parts, or about a schema whose types cannot be told. -/
def beyond? (schema step : Json) : Option Along :=
  match isArray schema with
  | .ok _ => if step.isCompound then none else some ⟨.null, step, (searched schema).keys⟩
  | .error _ => none

/-- Finds a field of an output schema along a path of any values, if that can be told. -/
def along? (schema : Json) (path : List Json) : Option Along :=
  let (keys, rest) := Path.leadingKeys path
  match field schema keys, rest with
  | .longType _, _ => none
  | .found inner, [] => some ⟨inner, .str "", []⟩
  | .found inner, step :: _ => beyond? inner step
  | .missing segment siblings, [] => some ⟨.null, .str segment, siblings⟩
  | .missing segment siblings, step :: _ =>
    if keys.contains segment then some ⟨.null, .str segment, siblings⟩ else beyond? .null step

/-- The types that an input schema declares at a path of any values; there is no answer about a step
that has parts, or where types cannot be told. -/
def typeAlong? (schema : Json) : List Json → Option (Option TypeSet)
  | [] => (TypeSet.ofDeclared? (schema.get? "type")).toOption
  | step :: rest =>
    let inner :=
      match Path.index? step, step with
      | some _, _ => schema.get? "items"
      | none, .str key => Members.get? (properties schema) key
      | none, _ => none
    match inner with
    | some (.obj members) => typeAlong? (.obj members) rest
    | _ => if step.isCompound then none else some none

/-- Along a path of keys alone a field is found as ever. -/
theorem along?_keys {schema inner : Json} {keys : List String}
    (h : field schema keys = .found inner) :
    along? schema (keys.map .str) = some ⟨inner, .str "", []⟩ := by
  simp [along?, Path.leadingKeys_keys, h]

end Schema

end CallPlan
