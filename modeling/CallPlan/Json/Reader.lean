import CallPlan.Json.Token

/-!
# CallPlan.Json.Reader

Reading JSON text.

* The reader is a stack machine on tokens: the stack holds the lists and objects that are still
  open, and a phase says what may come next. It takes one step for each token, so reading ends with
  the text and a deep document needs no deep recursion.
* A text that is not JSON has one error, the first: its cause and the offset it is about.
* Three sets of limits are in use. `ReadLimits.lenient` reads whatever is JSON; `ReadLimits.sent`
  reads what other programs send, which may be nested no deeper than the reader can follow, and this
  depends on who reads; `ReadLimits.strict` reads documents that become records, and refuses deep
  nesting, surrogates that stand alone and numbers with too many digits.
-/

namespace CallPlan

/-- The limits a reader sets beyond the grammar. -/
structure ReadLimits where
  /-- How many lists and objects may be open at a time, if that is limited. -/
  depth : Option Nat
  /-- Whether a list or an object counts as open before it has content. -/
  countsEmpty : Bool
  /-- Whether a surrogate may stand alone in a string. -/
  loneSurrogates : Bool
  /-- How many digits the integer part of a double-precision number may have, if that is
  limited; whole numbers always have a limit. -/
  digits : Option Nat

namespace ReadLimits

/-- No limits. -/
def lenient : ReadLimits := ⟨none, false, true, none⟩

/-- The limits for text that other programs send, for a reader that can follow it to a depth. -/
def sent (depth : Nat) : ReadLimits := ⟨some depth, true, true, none⟩

/-- The limits for documents that become records. -/
def strict : ReadLimits := ⟨some 200, false, false, some Text.digitLimit⟩

end ReadLimits

/-- Why a text is not JSON, and the offset of the character this is about. -/
structure JsonError where
  cause : JsonFault
  offset : Nat
  deriving DecidableEq

namespace Reader

/-- A list or an object that is still open; what it holds so far is in reverse. An object waits for
the value of a key. -/
inductive Frame where
  | list (items : List Json)
  | object (members : List (String × Json)) (key : String)

/-- What may come next. -/
inductive Phase where
  /-- A value. -/
  | value
  /-- The first item of a list, or its end. -/
  | firstItem
  /-- The first key of an object, or its end. -/
  | firstKey (members : List (String × Json))
  /-- A key of an object. -/
  | key (members : List (String × Json))
  /-- The colon after a key. -/
  | colon (members : List (String × Json)) (key : String)
  /-- What follows a value that is complete. -/
  | complete (value : Json)

/-- A reader between two tokens. -/
structure State where
  phase : Phase
  stack : List Frame

/-- The fault of a token, or end of the text, that may not come next. -/
def Phase.fault : Phase → List Frame → JsonFault
  | .value, _ | .firstItem, _ => .expectingValue
  | .firstKey _, _ | .key _, _ => .expectingKey
  | .colon _ _, _ => .expectingColon
  | .complete _, [] => .extraData
  | .complete _, _ :: _ => .expectingComma

/-- One more list or object is open, unless these are too many. -/
def descend (limits : ReadLimits) (stack : List Frame) (state : Except (JsonFault × Nat) State) :
    Except (JsonFault × Nat) State :=
  match limits.depth with
  | some limit => if limit < stack.length + 1 then .error (.tooDeep, 0) else state
  | none => state

/-- A list or an object begins. -/
def enter (limits : ReadLimits) (phase : Phase) (stack : List Frame) :
    Except (JsonFault × Nat) State :=
  if limits.countsEmpty then descend limits stack (.ok ⟨phase, stack⟩) else .ok ⟨phase, stack⟩

/-- A number, unless it has too many digits. -/
def stepNumber (limits : ReadLimits) (stack : List Frame) (value : Number) (digits : Nat) :
    Except (JsonFault × Nat) State :=
  match limits.digits with
  | some limit =>
    if limit < digits then .error (.longInteger digits, 0) else .ok ⟨.complete (.num value), stack⟩
  | none => .ok ⟨.complete (.num value), stack⟩

/-- The start of a value. -/
def stepValue (limits : ReadLimits) (stack : List Frame) : Token → Except (JsonFault × Nat) State
  | .atom value => .ok ⟨.complete value, stack⟩
  | .number value digits => stepNumber limits stack value digits
  | .str text paired =>
    if paired || limits.loneSurrogates then .ok ⟨.complete (.str text), stack⟩
    else .error (.loneSurrogate, 0)
  | .openBracket => enter limits .firstItem stack
  | .openBrace => enter limits (.firstKey []) stack
  | .fault cause offset => .error (cause, offset)
  | _ => .error (.expectingValue, 0)

/-- A key of an object. -/
def stepKey (limits : ReadLimits) (members : List (String × Json)) (stack : List Frame) :
    Token → Except (JsonFault × Nat) State
  | .str text paired =>
    if paired || limits.loneSurrogates then .ok ⟨.colon members text, stack⟩
    else .error (.loneSurrogate, 0)
  | .fault .unterminatedString offset => .error (.unterminatedString, offset)
  | .fault .controlCharacter offset => .error (.controlCharacter, offset)
  | .fault .invalidEscape offset => .error (.invalidEscape, offset)
  | .fault .invalidUnicodeEscape offset => .error (.invalidUnicodeEscape, offset)
  | _ => .error (.expectingKey, 0)

/-- One token: the state after it, or a fault and its offset from the token's start. -/
def step (limits : ReadLimits) (state : State) (token : Token) : Except (JsonFault × Nat) State :=
  match state.phase, state.stack with
  | .value, stack => stepValue limits stack token
  | .firstItem, stack =>
    match token with
    | .closeBracket => .ok ⟨.complete (.arr []), stack⟩
    | token => descend limits stack (stepValue limits (.list [] :: stack) token)
  | .firstKey members, stack =>
    match token with
    | .closeBrace => .ok ⟨.complete (.obj (Members.ofList members.reverse)), stack⟩
    | token => descend limits stack (stepKey limits members stack token)
  | .key members, stack => stepKey limits members stack token
  | .colon members key, stack =>
    match token with
    | .colon => .ok ⟨.value, .object members key :: stack⟩
    | _ => .error (.expectingColon, 0)
  | .complete value, .list items :: stack =>
    match token with
    | .comma => .ok ⟨.value, .list (value :: items) :: stack⟩
    | .closeBracket => .ok ⟨.complete (.arr (value :: items).reverse), stack⟩
    | _ => .error (.expectingComma, 0)
  | .complete value, .object members key :: stack =>
    match token with
    | .comma => .ok ⟨.key ((key, value) :: members), stack⟩
    | .closeBrace =>
      .ok ⟨.complete (.obj (Members.ofList ((key, value) :: members).reverse)), stack⟩
    | _ => .error (.expectingComma, 0)
  | .complete _, [] => .error (.extraData, 0)

/-- Reads the remaining tokens; the text ends at `endOffset`. -/
def run (limits : ReadLimits) (endOffset : Nat) (state : State) :
    List (Token × Nat) → Except JsonError Json
  | [] =>
    match state with
    | ⟨.complete value, []⟩ => .ok value
    | ⟨phase, stack⟩ => .error ⟨phase.fault stack, endOffset⟩
  | (token, offset) :: rest =>
    match step limits state token with
    | .ok next => run limits endOffset next rest
    | .error (cause, distance) => .error ⟨cause, offset + distance⟩

end Reader

namespace Json

/-- Reads a JSON text within limits. The offset of an error counts code points. -/
def read (limits : ReadLimits) (cs : List Char) : Except JsonError Json :=
  (Reader.run limits cs.length ⟨.value, []⟩ (Token.list cs)).mapError fun error =>
    { error with offset := (Text.points (cs.take error.offset)).length }

/-- Reads a document that is to become a record: any error means that it is not one. -/
def readStrict? (text : String) : Option Json := (read .strict text.toList).toOption

/-- Reads a document that another program sent as bytes, to a depth. -/
def readSent (depth : Nat) (bytes : List UInt8) : Except JsonError Json :=
  match Text.ofSent bytes with
  | .ok cs => read (.sent depth) cs
  | .error fault => .error ⟨.undecodable fault, 0⟩

end Json

namespace JsonError

/-- What a fault says, without its place. -/
def faultText : JsonFault → String
  | .expectingValue => "Expecting value"
  | .expectingKey => "Expecting property name enclosed in double quotes"
  | .expectingColon => "Expecting ':' delimiter"
  | .expectingComma => "Expecting ',' delimiter"
  | .extraData => "Extra data"
  | .unterminatedString => "Unterminated string starting at"
  | .controlCharacter => "Invalid control character at"
  | .invalidEscape => "Invalid \\escape"
  | .invalidUnicodeEscape => "Invalid \\uXXXX escape"
  | .loneSurrogate => "Lone surrogate"
  | .tooDeep => "Too deeply nested"
  | .longInteger _ => "Too many digits"
  | .undecodable fault => fault.message

/-- The message of an error in a document that was sent: what is wrong, and where by line, column
and offset. -/
def message (bytes : List UInt8) (error : JsonError) : String :=
  match error.cause with
  | .longInteger digits => Text.longNumberText digits
  | .undecodable fault => fault.message
  | cause =>
    let before := (Text.points ((Text.ofSent bytes).toOption.getD [])).take error.offset
    let line := before.count 0x0a + 1
    let column := (before.reverse.takeWhile (· ≠ 0x0a)).length + 1
    s!"{faultText cause}: line {line} column {column} (char {error.offset})"

end JsonError

end CallPlan
