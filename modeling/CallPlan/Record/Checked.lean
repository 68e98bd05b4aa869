import CallPlan.Json.Location
import CallPlan.Json.Reader

/-!
# CallPlan.Record.Checked

Checking JSON values against the shape of a record.

* A check gives a value or the list of everything wrong, each issue with the location it is about.
  Checks that stand side by side are combined applicatively: if several fail, the issues of all of
  them are kept, in order.
* The functions of `Record` check the fields of an object by name. Keys that no field asks for are
  ignored; a field is required, or has a default for when its key is absent.
-/

namespace CallPlan

/-- What may be wrong with a value that is to become a record. -/
inductive IssueKind where
  | missing
  | stringType
  | stringUnicode
  | dictType
  | listType
  | literalError
  | enumError
  | modelType
  | modelAttributesType
  | unionTagNotFound
  | unionTagInvalid
  | boolType
  | boolParsing
  | intType
  | intParsing
  | intParsingSize
  | intFromFloat
  | finiteNumber
  | floatParsing
  | datetimeType
  | datetimeParsing
  | datetimeFromDateParsing
  | jsonType
  | jsonInvalid
  deriving DecidableEq, Inhabited

/-- The word for a kind of issue. -/
def IssueKind.word : IssueKind → String
  | .missing => "missing"
  | .stringType => "string_type"
  | .stringUnicode => "string_unicode"
  | .dictType => "dict_type"
  | .listType => "list_type"
  | .literalError => "literal_error"
  | .enumError => "enum"
  | .modelType => "model_type"
  | .modelAttributesType => "model_attributes_type"
  | .unionTagNotFound => "union_tag_not_found"
  | .unionTagInvalid => "union_tag_invalid"
  | .boolType => "bool_type"
  | .boolParsing => "bool_parsing"
  | .intType => "int_type"
  | .intParsing => "int_parsing"
  | .intParsingSize => "int_parsing_size"
  | .intFromFloat => "int_from_float"
  | .finiteNumber => "finite_number"
  | .floatParsing => "float_parsing"
  | .datetimeType => "datetime_type"
  | .datetimeParsing => "datetime_parsing"
  | .datetimeFromDateParsing => "datetime_from_date_parsing"
  | .jsonType => "json_type"
  | .jsonInvalid => "json_invalid"

/-- Something wrong at a place of a value. -/
structure Issue where
  kind : IssueKind
  location : Location
  deriving DecidableEq, Inhabited

/-- The part of a value that an issue is about: its location is followed as far as it leads, and
what does not lead anywhere is passed over. -/
def Issue.subject (value : Json) : Location → Json
  | [] => value
  | step :: rest => subject ((value.part? step).getD value) rest

/-- An issue as a JSON value. -/
def Issue.toJson (i : Issue) : Json :=
  .obj [("type", .str i.kind.word), ("loc", i.location.toJson)]

/-- Where a value to be checked came from; some values are named or taken
differently. -/
inductive Origin where
  | value
  /-- The text of a document. -/
  | text
  /-- The body of a request. -/
  | body
  deriving DecidableEq

/-- A checked value, or everything that is wrong with it. -/
inductive Checked (α : Type) where
  | ok (value : α)
  | refused (issues : List Issue)
  deriving DecidableEq, Inhabited

namespace Checked

variable {α β : Type}

/-- One issue at the place that is being checked. -/
def issue (kind : IssueKind) : Checked α := .refused [⟨kind, []⟩]

/-- A function of a checked value. -/
def map (f : α → β) : Checked α → Checked β
  | .ok a => .ok (f a)
  | .refused issues => .refused issues

/-- A checked function of a checked value; the issues of both are kept. -/
def seq (f : Checked (α → β)) (x : Unit → Checked α) : Checked β :=
  match f, x () with
  | .ok f, .ok a => .ok (f a)
  | .ok _, .refused issues => .refused issues
  | .refused issues, .ok _ => .refused issues
  | .refused first, .refused second => .refused (first ++ second)

instance : Applicative Checked where
  pure := .ok
  map := map
  seq := seq

/-- A check of what is one step inside a value: the locations of its issues start with that step. -/
def within (step : Location.Part) : Checked α → Checked α
  | .ok a => .ok a
  | .refused issues => .refused (issues.map fun i => ⟨i.kind, step :: i.location⟩)

/-- The value, if there is nothing wrong. -/
def toOption : Checked α → Option α
  | .ok a => some a
  | .refused _ => none

/-- The value or the issues. -/
def toExcept : Checked α → Except (List Issue) α
  | .ok a => .ok a
  | .refused issues => .error issues

@[simp] theorem map_ok (f : α → β) (a : α) : f <$> (ok a : Checked α) = ok (f a) := rfl

@[simp] theorem seq_ok (f : α → β) (a : α) : (ok f : Checked (α → β)) <*> ok a = ok (f a) := rfl

@[simp] theorem within_ok (step : Location.Part) (a : α) : within step (ok a) = ok a := rfl

end Checked

namespace Record

variable {α : Type}

/-- A field that must be there. -/
def required (members : Members) (key : String) (check : Json → Checked α) : Checked α :=
  match members.get? key with
  | some value => (check value).within (.key key)
  | none => (Checked.issue .missing).within (.key key)

/-- A field that has a default. -/
def optional (members : Members) (key : String) (default : α) (check : Json → Checked α) :
    Checked α :=
  match members.get? key with
  | some value => (check value).within (.key key)
  | none => .ok default

/-- An object that is to become a record; any other value is an issue of the given kind. -/
def objectOr (kind : IssueKind) (fields : Members → Checked α) : Json → Checked α
  | .obj members => fields members
  | _ => .issue kind

/-- An object that is to become a record. -/
def object (fields : Members → Checked α) : Json → Checked α := objectOr .modelType fields

/-- A value that is to be the text of a document that becomes a record. -/
def document (check : Json → Checked α) : Json → Checked α
  | .str text =>
    match Json.readStrict? text with
    | some value => check value
    | none => .issue .jsonInvalid
  | _ => .issue .jsonType

/-! ## Checks of plain values -/

/-- Any value. -/
def any (value : Json) : Checked Json := .ok value

/-- A text. -/
def text : Json → Checked String
  | .str s => .ok s
  | _ => .issue .stringType

/-- An object taken as it is. -/
def members : Json → Checked Members
  | .obj ms => .ok ms
  | _ => .issue .dictType

/-- Null for an absent value, or a checked one. -/
def nullable (check : Json → Checked α) : Json → Checked (Option α)
  | .null => .ok none
  | value => some <$> check value

/-- Checks of the items of a list, from an index on. -/
def itemsFrom (check : Json → Checked α) (index : Nat) : List Json → Checked (List α)
  | [] => .ok []
  | item :: rest =>
    List.cons <$> (check item).within (.index index) <*> itemsFrom check (index + 1) rest

/-- A list of checked items. -/
def list (check : Json → Checked α) : Json → Checked (List α)
  | .arr items => itemsFrom check 0 items
  | _ => .issue .listType

/-- A word out of a fixed set. -/
def word (read : String → Option α) (kind : IssueKind) : Json → Checked α
  | .str s => match read s with
    | some a => .ok a
    | none => .issue kind
  | _ => .issue kind

end Record

end CallPlan
