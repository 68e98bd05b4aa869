import CallPlan.Json.Leaves
import CallPlan.Text.Digit

/-!
# CallPlan.Reference

References from the arguments of a call to the output of an earlier one.

* A reference is a text of the exact form `$<index>.output.<field.path>`: decimal digits of any
  script, then one or more segments of ASCII letters, digits and underscores, joined by single dots.
  There are no list indices and no expressions. One line break may follow.
* A text that only begins like one, `$<index>.output.`, was meant as a reference;
  `Reference.looksLike` tells, so that a malformed one is reported instead of passed on.
* An index with too many digits is not converted: `Reference.parse` refuses it, after it has found
  that the text has the form of a reference.
-/

namespace CallPlan

/-- A reference to a field of the output of a call. -/
structure Reference where
  /-- The position of the call whose output is meant. -/
  source : Nat
  /-- The keys to follow inside that output. -/
  path : List String
  /-- The text it was read from. -/
  raw : String
  deriving DecidableEq, Inhabited

/-- An index with more digits than are converted. -/
structure LongIndex where
  digits : Nat
  deriving DecidableEq, Inhabited

/-- The refusal of an index that is too long. -/
def LongIndex.message (index : LongIndex) : String := Text.longNumberText index.digits

namespace Reference

/-- What stands between the index and the path. -/
def middle : List Char := ['.', 'o', 'u', 't', 'p', 'u', 't', '.']

/-- The digits of the index and what follows the middle part, for a text that begins like a
reference. -/
def split? : List Char → Option (List Char × List Char)
  | [] => none
  | c :: rest =>
    if c = '$' then
      let digits := rest.takeWhile Text.isDigit
      let after := rest.drop digits.length
      if !digits.isEmpty && middle.isPrefixOf after then some (digits, after.drop middle.length)
      else none
    else none

/-- Whether a text was meant as a reference, well-formed or not. -/
def looksLike (text : String) : Bool := (split? text.toList).isSome

/-- The characters of a path segment. -/
def isSegmentChar (c : Char) : Bool :=
  ('A' ≤ c && c ≤ 'Z') || ('a' ≤ c && c ≤ 'z') || ('0' ≤ c && c ≤ '9') || c = '_'

/-- A text without one line break at its end. -/
def dropFinalBreak (cs : List Char) : List Char :=
  if cs.getLast? = some '\n' then cs.dropLast else cs

/-- The segments of a path: none of them is empty, and all are made of segment characters. -/
def segments? (cs : List Char) : Option (List String) :=
  let parts := (dropFinalBreak cs).splitOnP (· = '.')
  if parts.all fun part => !part.isEmpty && part.all isSegmentChar then
    some (parts.map String.ofList)
  else none

/-- Reads a text as a reference: `none` if it is not one. -/
def parse (text : String) : Except LongIndex (Option Reference) :=
  match split? text.toList with
  | none => .ok none
  | some (digits, rest) =>
    match segments? rest with
    | none => .ok none
    | some path =>
      if Text.digitLimit < digits.length then .error ⟨digits.length⟩
      else .ok (some ⟨Text.digitsValue digits, path, text⟩)

/-! ## References inside a value -/

/-- The text leaves of a value that were meant as references, well-formed or not. -/
def candidates (value : Json) : List (Location × String) :=
  value.leaves.filter fun (_, text) => looksLike text

/-- The references among some leaves, in order. -/
def amongLeaves : List (Location × String) → Except LongIndex (List (Location × Reference))
  | [] => .ok []
  | (place, text) :: rest => do
    let reference? ← parse text
    let found ← amongLeaves rest
    return match reference? with
      | some reference => (place, reference) :: found
      | none => found

/-- The well-formed references in a value, with their locations. -/
def find (value : Json) : Except LongIndex (List (Location × Reference)) := amongLeaves value.leaves

end Reference

end CallPlan
