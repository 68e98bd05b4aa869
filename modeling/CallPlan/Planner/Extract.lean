import CallPlan.Json.Literal
import CallPlan.Text.Blank

/-!
# CallPlan.Planner.Extract

Finding the JSON object in what a model wrote.

* If a fenced block can be found, only its content is looked at. A fence is three backticks; the
  word `json` and blanks may follow the opening one; the content has at least one character and ends
  at the next fence. Where blanks alone are left between two fences, the last of them is the
  content.
* Control characters other than line breaks and tabs are dropped.
* The object begins at the first opening brace and ends where that brace is closed; braces inside
  string literals do not count.
* Texts in place of one text are joined. One that begins with a control character counts only if it
  is a part of a line feed, a carriage return and a tab in this order.
-/

namespace CallPlan

/-- Why no object was found. -/
inductive ExtractError where
  /-- There is no opening brace; the text that was looked at. -/
  | noObject (content : String)
  /-- The first opening brace is never closed. -/
  | unbalanced
  deriving DecidableEq, Inhabited

namespace ExtractError

/-- The message of a search without result. -/
def message : ExtractError → String
  | .noObject content =>
    "No JSON object in planner response: " ++ String.ofList (Text.quoted content)
  | .unbalanced => "Unbalanced braces in planner response"

end ExtractError

namespace Extract

/-! ## Fenced blocks -/

/-- The mark that opens and closes a block. -/
def fence : List Char := ['\x60', '\x60', '\x60']

/-- The word that may follow an opening fence. -/
def label : List Char := ['j', 's', 'o', 'n']

/-- The text before the first fence, if there is one. -/
def beforeFence : List Char → Option (List Char)
  | [] => none
  | c :: rest =>
    if fence.isPrefixOf (c :: rest) then some [] else (beforeFence rest).map (c :: ·)

/-- The shortest text of at least one character that a fence follows. -/
def content? : List Char → Option (List Char)
  | [] => none
  | c :: rest => (beforeFence rest).map (c :: ·)

/-- The content of a block after blanks: what follows all of them, or else the last blank too. -/
def contentAfterBlanks? (cs : List Char) : Option (List Char) :=
  let blanks := cs.takeWhile Text.isBlank
  let body := cs.drop blanks.length
  match content? body with
  | some content => some content
  | none =>
    match blanks.getLast? with
    | some blank => content? (blank :: body)
    | none => none

/-- The content of a block, given what follows its opening fence. -/
def blockContent? (cs : List Char) : Option (List Char) :=
  let labelled :=
    if label.isPrefixOf cs then contentAfterBlanks? (cs.drop label.length) else none
  match labelled with
  | some content => some content
  | none => contentAfterBlanks? cs

/-- The content of the first fenced block of a text. -/
def fenced? : List Char → Option (List Char)
  | [] => none
  | c :: rest =>
    let here :=
      if fence.isPrefixOf (c :: rest) then blockContent? ((c :: rest).drop fence.length) else none
    match here with
    | some content => some content
    | none => fenced? rest

/-- The part of a text that is looked at: the content of its first block, or all of it. -/
def relevant (cs : List Char) : List Char :=
  match fenced? cs with
  | some content => Text.trimBy Text.isBlank content
  | none => cs

/-- Whether a character is kept. -/
def isKept (c : Char) : Bool := ' ' ≤ c || c = '\n' || c = '\r' || c = '\t'

/-- Whether a text among several is kept. -/
def isKeptPiece (piece : String) : Bool :=
  match piece.toList with
  | [] => true
  | c :: _ => ' ' ≤ c || ["\n", "\r", "\t", "\n\r", "\r\t", "\n\r\t"].contains piece

/-! ## Braces -/

/-- Where a scan is with respect to string literals. -/
inductive Quoting where
  | outside
  | inside
  /-- After a backslash inside a string literal. -/
  | escaped
  deriving DecidableEq, Inhabited

/-- The text up to the brace that closes `depth` open ones, with that brace. -/
def toClosing : (depth : Nat) → Quoting → List Char → Option (List Char)
  | _, _, [] => none
  | depth, .escaped, c :: rest => (toClosing depth .inside rest).map (c :: ·)
  | depth, .inside, c :: rest =>
    let next := if c = '\\' then .escaped else if c = '\x22' then .outside else .inside
    (toClosing depth next rest).map (c :: ·)
  | depth, .outside, c :: rest =>
    if c = '\x22' then (toClosing depth .inside rest).map (c :: ·)
    else if c = '\x7b' then (toClosing (depth + 1) .outside rest).map (c :: ·)
    else if c = '\x7d' then
      if depth ≤ 1 then some [c] else (toClosing (depth - 1) .outside rest).map (c :: ·)
    else (toClosing depth .outside rest).map (c :: ·)

/-- The object in a text that holds no fences any more. -/
def braced (cs : List Char) : Except ExtractError (List Char) :=
  match cs.dropWhile (· ≠ '\x7b') with
  | [] => .error (.noObject (String.ofList cs))
  | found =>
    match toClosing 0 .outside found with
    | some object => .ok object
    | none => .error .unbalanced

/-- The JSON object in what a model wrote. -/
def object (text : String) : Except ExtractError String :=
  (braced ((relevant text.toList).filter isKept)).map String.ofList

/-- The JSON object in what a model wrote, if that came as several texts. -/
def objectIn (pieces : List String) : Except ExtractError String :=
  (braced ((pieces.filter isKeptPiece).flatMap String.toList)).map String.ofList

end Extract

end CallPlan
