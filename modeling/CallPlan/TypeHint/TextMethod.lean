import CallPlan.Text.Alphabet
import CallPlan.Text.Printable
import CallPlan.Text.UpperCase
import CallPlan.TypeHint.Template

/-!
# CallPlan.TypeHint.TextMethod

What texts and bytes do.

* Both are lists of numbers here, code points or octets. Bytes know the letters of ASCII alone.
* The arguments of a function stand at its parameters (`Arguments.placed`): each by position or
  under its name.
-/

namespace CallPlan

namespace TypeHint

/-! ## Arguments -/

namespace Arguments

/-- The arguments at some parameters, of which the first ones are required; a parameter with an
empty name takes an argument by position alone. -/
def placed (given : Arguments) (names : List String) (required : Nat) :
    Except Fault (List (Option Value)) := do
  let count := given.values.length
  let open' := names.drop count
  let known := given.named.all fun (name, _) => !name.isEmpty && open'.contains name
  let found := given.values.map some ++
    open'.map fun name => if name.isEmpty then none else List.lookup name given.named
  if names.length < count || !known || (found.take required).any Option.isNone then
    throw .unsuited
  else return found

/-- The argument at a place. -/
def at? (found : List (Option Value)) (k : Nat) : Option Value := (found[k]?).join

/-- Checks that there are no arguments under names. -/
def unnamed (given : Arguments) : Except Fault (List Value) :=
  if given.named.isEmpty then .ok given.values else .error .unsuited

end Arguments

/-! ## Characters -/

namespace TextMethod

/-- A blank. -/
def isBlank (isBytes : Bool) (n : Nat) : Bool :=
  if isBytes then (9 ≤ n && n ≤ 13) || n = 32 else Text.isBlank (Char.ofNat n)

/-- The small letter of a code point. -/
def lower (isBytes : Bool) (n : Nat) : List Nat :=
  if isBytes && 0x80 ≤ n then [n] else (Text.lowerChar (Char.ofNat n)).map Char.toNat

/-- The capital of a code point. -/
def upper (isBytes : Bool) (n : Nat) : List Nat :=
  if isBytes && 0x80 ≤ n then [n] else Text.capital n

/-- A code point at the start of a word. -/
def leading (isBytes : Bool) (n : Nat) : List Nat :=
  if isBytes then upper true n else Text.leading n

/-- Whether a code point is a capital. -/
def isUpper (isBytes : Bool) (n : Nat) : Bool :=
  if isBytes then 0x41 ≤ n && n ≤ 0x5a else Text.isCapital n

/-- Whether a code point is a small letter. -/
def isLower (isBytes : Bool) (n : Nat) : Bool :=
  if isBytes then 0x61 ≤ n && n ≤ 0x7a else Text.isSmall n

/-- Whether a code point is a form of a letter that only stands at the start of a word. -/
def isLeading (isBytes : Bool) (n : Nat) : Bool := !isBytes && Text.isLeading n

/-- Whether a code point is a decimal digit. -/
def isDigit (isBytes : Bool) (n : Nat) : Bool :=
  if isBytes then 0x30 ≤ n && n ≤ 0x39 else Text.isDigit (Char.ofNat n)

/-- Whether a code point is a digit of any shape. -/
def isAnyDigit (isBytes : Bool) (n : Nat) : Bool :=
  if isBytes then isDigit true n else Text.isAnyDigit (Char.ofNat n)

/-- Whether a code point is a letter. -/
def isLetter (isBytes : Bool) (n : Nat) : Bool :=
  if isBytes then (0x41 ≤ n && n ≤ 0x5a) || (0x61 ≤ n && n ≤ 0x7a)
  else Text.isLetter (Char.ofNat n)

/-- Whether a code point is a letter, or stands for a number. -/
def isLetterOrNumeral (isBytes : Bool) (n : Nat) : Bool :=
  isLetter isBytes n || if isBytes then isDigit true n else Text.isNumeral (Char.ofNat n)

/-- Whether a code point ends a line. -/
def endsLine (isBytes : Bool) (n : Nat) : Bool :=
  if isBytes then n = 10 || n = 13
  else [10, 11, 12, 13, 0x1c, 0x1d, 0x1e, 0x85, 0x2028, 0x2029].contains n

/-! ## Parts of texts -/

/-- The part of a text between two bounds, and where it begins; there is none where it begins behind
the end. -/
def window? (points : List Nat) (start stop : Option Int) : Option (Nat × List Nat) :=
  let size : Int := points.length
  let clip (n : Int) : Int := if n < 0 then max 0 (n + size) else n
  let start := clip (start.getD 0)
  let stop := min size (clip (stop.getD size))
  if size < start || stop < start then none
  else some (start.toNat, (points.take stop.toNat).drop start.toNat)

/-- The last place of a part in a text. -/
def lastPlaceOf? (part points : List Nat) : Option Nat :=
  (placeOf? part.reverse points.reverse).map fun k => points.length - part.length - k

/-- Whether a text has a part from its start on, or up to its end. -/
def isEdge (isStart : Bool) (part points : List Nat) : Bool :=
  if isStart then part.isPrefixOf points else part.isSuffixOf points

/-- The parts of a text between a separator, at most a number of times; a step of fuel for each. -/
def splitBy (separator : List Nat) : (fuel : Nat) → (limit : Int) → List Nat → List (List Nat)
  | 0, _, points => [points]
  | fuel + 1, limit, points =>
    if limit = 0 then [points]
    else
      match placeOf? separator points with
      | none => [points]
      | some k =>
        points.take k :: splitBy separator fuel (limit - 1) (points.drop (k + separator.length))

/-- The words of a text between blanks, at most a number of them, and then what is left; a step of
fuel for each word. -/
def wordsOf (isBytes : Bool) : (fuel : Nat) → (limit : Int) → List Nat → List (List Nat)
  | 0, _, points => [points]
  | fuel + 1, limit, points =>
    let points := points.dropWhile (isBlank isBytes)
    if points.isEmpty then []
    else if limit = 0 then [points]
    else
      let word := points.takeWhile (!isBlank isBytes ·)
      word :: wordsOf isBytes fuel (limit - 1) (points.drop word.length)

/-- A text cut from its end, as one from its start is. -/
def mirrored (split : List Nat → List (List Nat)) (points : List Nat) : List (List Nat) :=
  ((split points.reverse).map List.reverse).reverse

/-- The lines of a text, perhaps with their ends; a step of fuel for each line. -/
def linesOf (isBytes keepEnds : Bool) : (fuel : Nat) → List Nat → List (List Nat)
  | 0, _ => []
  | fuel + 1, points =>
    if points.isEmpty then []
    else
      let line := points.takeWhile (!endsLine isBytes ·)
      let rest := points.drop line.length
      let ending := if rest.take 2 = [13, 10] then [13, 10] else rest.take 1
      (if keepEnds then line ++ ending else line) ::
        linesOf isBytes keepEnds fuel (rest.drop ending.length)

/-- Every part of a text that equals another one replaced, at most a number of times. -/
def replaced (old new : List Nat) (limit : Int) (points : List Nat) : List Nat :=
  if old.isEmpty then
    let limit := if limit < 0 then points.length + 1 else limit.toNat
    (points.zipIdx.flatMap fun (n, k) => if k < limit then new ++ [n] else [n]) ++
      (if points.length < limit then new else [])
  else (splitBy old (points.length + 1) limit points).intersperse new |>.flatten

/-- How often a part occurs in a text, side by side. -/
def countOf (part points : List Nat) : Nat :=
  if part.isEmpty then points.length + 1
  else (splitBy part (points.length + 1) (-1) points).length - 1

/-- A text filled up at both sides. -/
def centred (width : Int) (fill : Nat) (points : List Nat) : List Nat :=
  let missing := (width - points.length).toNat
  let left := missing / 2 + (if missing % 2 = 1 && width % 2 = 1 then 1 else 0)
  List.replicate left fill ++ points ++ List.replicate (missing - left) fill

/-- The code points that others become, each as those around it say; those before it stand the
nearest first. -/
def eachPlaced (form : List Nat → Nat → List Nat → List Nat) (before : List Nat) :
    List Nat → List Nat
  | [] => []
  | n :: rest => form before n rest ++ eachPlaced form (n :: before) rest

/-- The small letter of a code point among others: one letter has a form of its own at the end of a
word. -/
def small (isBytes : Bool) (before : List Nat) (n : Nat) (rest : List Nat) : List Nat :=
  let meets (points : List Nat) : Bool := Text.meetsCased (points.map Char.ofNat)
  if !isBytes && n = 0x3a3 && meets before && !meets rest then [0x3c2] else lower isBytes n

/-- Whether a code point is a letter with case. -/
def isCased (isBytes : Bool) (n : Nat) : Bool :=
  isUpper isBytes n || isLower isBytes n || isLeading isBytes n

/-- A code point with a capital at the start of each word. -/
def titled (isBytes : Bool) (before : List Nat) (n : Nat) (rest : List Nat) : List Nat :=
  if before.head?.any (isCased isBytes) then small isBytes before n rest else leading isBytes n

/-- Whether each word starts with a capital and goes on with small letters, and there is one. -/
def isTitled (isBytes : Bool) : (isInside found : Bool) → List Nat → Bool
  | _, found, [] => found
  | isInside, found, n :: rest =>
    if isUpper isBytes n || isLeading isBytes n then !isInside && isTitled isBytes true true rest
    else if isLower isBytes n then isInside && isTitled isBytes true found rest
    else isTitled isBytes false found rest

/-- Tabs replaced by blanks up to the next column. -/
def untabbed (size : Int) : (column : Nat) → List Nat → List Nat
  | _, [] => []
  | column, n :: rest =>
    if n = 9 then
      let count := if 0 < size then (size - column % size).toNat else 0
      List.replicate count 32 ++ untabbed size (column + count) rest
    else n :: untabbed size (if n = 10 || n = 13 then 0 else column + 1) rest

/-- A text filled up with zeros behind its sign. -/
def zeroFilled (width : Int) (points : List Nat) : List Nat :=
  let zeros := List.replicate (width - points.length).toNat 48
  match points with
  | n :: rest => if n = 43 || n = 45 then n :: zeros ++ rest else zeros ++ points
  | [] => zeros

/-! ## Encodings -/

/-- The octets of a code point. -/
def utf8 (n : Nat) : List Nat :=
  (String.ofList [Char.ofNat n]).toUTF8.toList.map UInt8.toNat

/-- The usual name of an encoding. -/
def encodingName (name : String) : String :=
  String.ofList ((name.toList.filter fun c => c.isAlphanum).map Char.toLower)

/-- The encodings that are known, and the first number that each lacks; none lacks none. -/
def encodings : List (String × Option Nat) :=
  [("utf8", none), ("u8", none), ("utf", none), ("cp65001", none), ("ascii", some 0x80),
    ("usascii", some 0x80), ("646", some 0x80), ("latin1", some 0x100), ("iso88591", some 0x100),
    ("latin", some 0x100), ("l1", some 0x100), ("88591", some 0x100)]

/-- The octets of a text. -/
def encode (points : List Nat) (encoding errors : String) : Except Fault (List Nat) :=
  match List.lookup (encodingName encoding) encodings with
  | none => .error ⟨"LookupError", "unknown encoding: " ++ encoding⟩
  | some limit => do
    let lists ← points.mapM fun n =>
      let lacks := match limit with
        | none => Text.isSurrogate n
        | some limit => limit ≤ n
      if !lacks then .ok (if limit.isNone then utf8 n else [n])
      else
        match errors with
        | "ignore" => .ok []
        | "replace" => .ok [63]
        | "strict" => .error ⟨"UnicodeEncodeError", ""⟩
        | "backslashreplace" =>
          .ok ((Text.pointEscape n).map Char.toNat)
        | "xmlcharrefreplace" => .ok (("&#" ++ toString n ++ ";").toList.map Char.toNat)
        | errors => .error ⟨"LookupError", "unknown error handler name '" ++ errors ++ "'"⟩
    return lists.flatten

/-- The text of octets. -/
def decode (octets : List Nat) (encoding errors : String) : Except Fault (List Nat) :=
  match List.lookup (encodingName encoding) encodings with
  | none => .error ⟨"LookupError", "unknown encoding: " ++ encoding⟩
  | some (some limit) => do
    let lists ← octets.mapM fun n => if n < limit then .ok [n] else bad
    return lists.flatten
  | some none =>
    match String.fromUTF8? (ByteArray.mk (octets.map UInt8.ofNat).toArray) with
    | some text => .ok (text.toList.map Char.toNat)
    | none => do
      let lists ← octets.mapM fun n => if n < 0x80 then .ok [n] else bad
      return lists.flatten
where
  /-- What an octet that cannot be read comes to. -/
  bad : Except Fault (List Nat) :=
    match errors with
    | "ignore" => .ok []
    | "replace" => .ok [0xfffd]
    | _ => .error ⟨"UnicodeDecodeError", ""⟩

end TextMethod

namespace Machine

variable (m : Machine)

open TextMethod

/-! ## Arguments of methods -/

/-- The numbers of a text, or of bytes, as an argument. -/
def pointsOf (isBytes : Bool) (value : Value) : Action (List Nat) := do
  match Sequence.of? (← get) value, isBytes with
  | some (.text points), false => return points
  | some (.bytes octets), true | some (.octets octets), true => return octets
  | _, _ => throw .unsuited

/-- A whole number as an argument that may be left out, or say nothing. -/
def bound? (value : Option Value) : Action (Option Int) := do
  match value with
  | none | some .nothing => return none
  | some value => return some (← m.index value)

/-- What is looked for as an argument: a part, or in bytes an octet. -/
def soughtPart (isBytes : Bool) (value : Value) : Action (List Nat) := do
  match (← value.plain).int?, isBytes with
  | some n, true =>
    if n < 0 || 256 ≤ n then throw (.badValue "byte must be in range(0, 256)")
    else return [n.toNat]
  | _, _ => pointsOf isBytes value

/-- What fills up as an argument: one character. -/
def filler (isBytes : Bool) (value : Option Value) : Action Nat := do
  match value with
  | none => return 32
  | some value =>
    match ← pointsOf isBytes value with
    | [n] => return n
    | _ => throw .unsuited

/-- A width as an argument. -/
def widthOf (value : Option Value) : Action Int := do
  let n ← m.index (value.getD .nothing)
  if (sizeLimit : Int) < n then throw ⟨"MemoryError", ""⟩ else return n

/-- A text or bytes as a value. -/
def ofPoints (isBytes : Bool) (points : List Nat) : Value :=
  if isBytes then .bytes points else .text (Quoted.textOf points)

/-- Texts or bytes as a list. -/
def listOfPoints (isBytes : Bool) (parts : List (List Nat)) : Action Value :=
  Value.list (parts.map (ofPoints isBytes))

/-! ## Methods -/

/-- What is found of a part: its place, or how often it occurs. -/
def searched (isBytes : Bool) (points : List Nat) (name : String) (given : Arguments) :
    Action Value := do
  let found ← Value.lift (given.placed ["", "", ""] 1)
  let at' := Arguments.at? found
  let part ← soughtPart isBytes ((at' 0).getD .nothing)
  let window := window? points (← m.bound? (at' 1)) (← m.bound? (at' 2))
  match name with
  | "count" => return .int (((window.map fun (_, w) => countOf part w).getD 0 : Nat))
  | name =>
    let place := window.bind fun (start, w) =>
      (if name = "find" || name = "index" then placeOf? part w else lastPlaceOf? part w).map
        (start + ·)
    match place with
    | some k => return .int (k : Nat)
    | none =>
      if name = "find" || name = "rfind" then return .int (-1)
      else throw (.badValue (if isBytes then "subsection not found" else "substring not found"))

/-- Whether a text begins or ends with a part, or with one of several. -/
def edged (isBytes : Bool) (points : List Nat) (isStart : Bool) (given : Arguments) :
    Action Value := do
  let found ← Value.lift (given.placed ["", "", ""] 1)
  let at' := Arguments.at? found
  let parts ← match ← ((at' 0).getD .nothing).plain with
    | .tuple items => items.mapM (pointsOf isBytes)
    | value => do pure [← pointsOf isBytes value]
  let window := window? points (← m.bound? (at' 1)) (← m.bound? (at' 2))
  return .bool (window.any fun (_, w) => parts.any fun part => isEdge isStart part w)

/-- The parts of a text between separators. -/
def divided (isBytes : Bool) (points : List Nat) (isRight : Bool) (given : Arguments) :
    Action Value := do
  let found ← Value.lift (given.placed ["sep", "maxsplit"] 0)
  let limit := (← m.bound? (Arguments.at? found 1)).getD (-1)
  let fuel := points.length + 1
  match (Arguments.at? found 0).getD .nothing with
  | .nothing =>
    let split := wordsOf isBytes fuel limit
    let parts := if isRight then mirrored split points else split points
    listOfPoints isBytes parts
  | separator =>
    let part ← pointsOf isBytes separator
    if part.isEmpty then throw (.badValue "empty separator")
    else if isRight then
      listOfPoints isBytes (mirrored (splitBy part.reverse fuel limit) points)
    else listOfPoints isBytes (splitBy part fuel limit points)

/-- A text in three parts: before a separator, the separator, and after it. -/
def parted (isBytes : Bool) (points : List Nat) (isRight : Bool) (given : Arguments) :
    Action Value := do
  let found ← Value.lift (given.placed [""] 1)
  let part ← pointsOf isBytes ((Arguments.at? found 0).getD .nothing)
  if part.isEmpty then throw (.badValue "empty separator")
  else
    let made := ofPoints isBytes
    match if isRight then lastPlaceOf? part points else placeOf? part points with
    | some k =>
      return .tuple [made (points.take k), made part, made (points.drop (k + part.length))]
    | none =>
      return .tuple (if isRight then [made [], made [], made points]
        else [made points, made [], made []])

/-- A text with the items of a value between it. -/
def joined (isBytes : Bool) (points : List Nat) (given : Arguments) : Action Value := do
  let found ← Value.lift (given.placed [""] 1)
  let parts ← (← m.collect ((Arguments.at? found 0).getD .nothing)).mapM (pointsOf isBytes)
  return ofPoints isBytes (parts.intersperse points).flatten

/-- A text in which characters stand for others as a table says. -/
def translated (points : List Nat) (table : Value) : Action Value := do
  let lists : List (List Nat) ← points.mapM fun (n : Nat) => do
    match ← attempt ["KeyError", "IndexError"] (m.item table (.int n)) with
    | none => return [n]
    | some .nothing => return []
    | some (.int k) =>
      if k < 0 || 0x110000 ≤ k then
        throw (.badValue "character mapping must be in range(0x110000)")
      else return [k.toNat]
    | some (.text s) => return Text.points s.toList
    | some _ => throw .unsuited
  return .text (Quoted.textOf lists.flatten)

/-- Octets with those in their place that stand at their positions in a table, without some. -/
def replacedOctets (octets : List Nat) (table : Value) (dropped? : Option Value) :
    Action Value := do
  let table? ← if table.isNothing then pure none else some <$> pointsOf true table
  let dropped ← match dropped? with
    | none => pure []
    | some value => pointsOf true value
  match table? with
  | none => return .bytes (octets.filter (!dropped.contains ·))
  | some table =>
    if table.length ≠ 256 then
      throw (.badValue "translation table must be 256 characters long")
    else
      return .bytes ((octets.filter (!dropped.contains ·)).map fun n => table.getD n n)

/-- Octets in hexadecimal digits, perhaps with a separator between groups of some octets: those of a
positive size are counted from the end. -/
def hexOf (octets : List Nat) (given : Arguments) : Action Value := do
  let found ← Value.lift (given.placed ["sep", "bytes_per_sep"] 0)
  let size ← match Arguments.at? found 1 with
    | none => pure 1
    | some value => m.index value
  let text (octets : List Nat) : List Char := octets.flatMap (Text.hexDigits 2)
  match Arguments.at? found 0 with
  | none => return .text (String.ofList (text octets))
  | some separator =>
    let points ← match Sequence.of? (← get) separator with
      | some (.text points) | some (.bytes points) => pure points
      | _ => throw .unsuited
    match points with
    | [point] =>
      if 0x80 ≤ point then throw (.badValue "sep must be ASCII.")
      else if size = 0 then return .text (String.ofList (text octets))
      else
        let count := size.natAbs
        let groups (octets : List Nat) : List (List Nat) :=
          (List.range ((octets.length + count - 1) / count)).map fun k =>
            (octets.drop (k * count)).take count
        let parts := if 0 < size then ((groups octets.reverse).map List.reverse).reverse
          else groups octets
        let between : List (List Char) := (parts.map text).intersperse [Char.ofNat point]
        return .text (String.ofList between.flatten)
    | _ => throw (.badValue "sep must be length 1.")

/-- A table that says which characters stand for which. -/
def translation (given : Arguments) : Action Value := do
  let found ← Value.lift (given.placed ["", "", ""] 1)
  match Arguments.at? found 0, Arguments.at? found 1 with
  | some table, none =>
    match table? (← get) table with
    | none => throw .unsuited
    | some (_, entries) =>
      let pairs ← entries.mapM fun (key, value) => do
        match key with
        | .text s =>
          match Text.points s.toList with
          | [n] => return (Value.int (n : Nat), value)
          | _ =>
            throw (.badValue "string keys in translate table must be of length 1")
        | .int n => return (.int n, value)
        | _ => throw .unsuited
      Value.tableOf pairs
  | some from', some to' =>
    let a ← pointsOf false from'
    let b ← pointsOf false to'
    let dropped ← match Arguments.at? found 2 with
      | some value => pointsOf false value
      | none => pure []
    if a.length ≠ b.length then
      throw (.badValue "the first two maketrans arguments must have equal length")
    else
      Value.tableOf ((a.zip b).map (fun (x, y) => (Value.int (x : Nat), Value.int (y : Nat))) ++
        dropped.map fun (x : Nat) => (Value.int x, Value.nothing))
  | none, _ => throw .unsuited

/-- Whether all characters of a text pass a test, and there are some. -/
def everyPoint (points : List Nat) (test : Nat → Bool) : Value :=
  .bool (!points.isEmpty && points.all test)

/-- What a text, or bytes, do under a name without arguments. -/
def plainTextMethod? (isBytes : Bool) (points : List Nat) (name : String) : Option Value :=
  let made := ofPoints isBytes
  let each (form : List Nat → Nat → List Nat → List Nat) : Option Value :=
    some (made (eachPlaced form [] points))
  match name with
  | "capitalize" =>
    each fun before n rest =>
      if before.isEmpty then leading isBytes n else small isBytes before n rest
  | "lower" => each (small isBytes)
  | "casefold" => some (made (points.flatMap Text.folded))
  | "upper" => some (made (points.flatMap (upper isBytes)))
  | "swapcase" =>
    each fun before n rest =>
      if isUpper isBytes n then small isBytes before n rest
      else if isLower isBytes n then upper isBytes n else [n]
  | "title" => each (titled isBytes)
  | "isalpha" => some (everyPoint points (isLetter isBytes))
  | "isdecimal" => some (everyPoint points (isDigit isBytes))
  | "isdigit" => some (everyPoint points (isAnyDigit isBytes))
  | "isnumeric" => some (everyPoint points fun n => Text.isNumeral (Char.ofNat n))
  | "isalnum" => some (everyPoint points (isLetterOrNumeral isBytes))
  | "isspace" => some (everyPoint points (isBlank isBytes))
  | "isascii" => some (.bool (points.all (· < 0x80)))
  | "isupper" =>
    some (.bool (points.any (isUpper isBytes) &&
      !points.any fun n => isLower isBytes n || isLeading isBytes n))
  | "islower" =>
    some (.bool (points.any (isLower isBytes) &&
      !points.any fun n => isUpper isBytes n || isLeading isBytes n))
  | "istitle" => some (.bool (isTitled isBytes false false points))
  | "isidentifier" => some (.bool (Text.isName (Text.ofPoints points)))
  | "isprintable" =>
    some (.bool (points.all fun n => !Text.isSurrogate n && Text.isPrintable (Char.ofNat n)))
  | _ => none

/-- What a text, or bytes, do under a name; texts alone are templates. -/
def textMethod? (isBytes : Bool) (points : List Nat) (name : String) (given : Arguments) :
    Action (Option Value) := do
  let made (points : List Nat) : Option Value := some (ofPoints isBytes points)
  match plainTextMethod? isBytes points name with
  | some value =>
    let _ ← Value.lift (given.placed [] 0)
    return some value
  | none =>
    match name with
    | "count" | "find" | "index" | "rfind" | "rindex" =>
      return some (← m.searched isBytes points name given)
    | "startswith" => return some (← m.edged isBytes points true given)
    | "endswith" => return some (← m.edged isBytes points false given)
    | "split" => return some (← m.divided isBytes points false given)
    | "rsplit" => return some (← m.divided isBytes points true given)
    | "partition" => return some (← parted isBytes points false given)
    | "rpartition" => return some (← parted isBytes points true given)
    | "join" => return some (← m.joined isBytes points given)
    | "splitlines" =>
      let found ← Value.lift (given.placed ["keepends"] 0)
      let keepEnds ← m.truth ((Arguments.at? found 0).getD .nothing)
      return some (← listOfPoints isBytes (linesOf isBytes keepEnds (points.length + 1) points))
    | "strip" | "lstrip" | "rstrip" =>
      let found ← Value.lift (given.placed [""] 0)
      let isCut : Nat → Bool ← match (Arguments.at? found 0).getD .nothing with
        | .nothing => pure (isBlank isBytes)
        | value => do
          let cut ← pointsOf isBytes value
          pure cut.contains
      let left := if name = "rstrip" then points else points.dropWhile isCut
      return made (if name = "lstrip" then left else (left.reverse.dropWhile isCut).reverse)
    | "center" | "ljust" | "rjust" =>
      let found ← Value.lift (given.placed ["", ""] 1)
      let width ← m.widthOf (Arguments.at? found 0)
      let fill ← filler isBytes (Arguments.at? found 1)
      let missing := List.replicate (width - points.length).toNat fill
      return made (if name = "center" then centred width fill points
        else if name = "ljust" then points ++ missing else missing ++ points)
    | "zfill" =>
      let found ← Value.lift (given.placed [""] 1)
      return made (zeroFilled (← m.widthOf (Arguments.at? found 0)) points)
    | "expandtabs" =>
      let found ← Value.lift (given.placed ["tabsize"] 0)
      return made (untabbed ((← m.bound? (Arguments.at? found 0)).getD 8) 0 points)
    | "removeprefix" | "removesuffix" =>
      let found ← Value.lift (given.placed [""] 1)
      let part ← pointsOf isBytes ((Arguments.at? found 0).getD .nothing)
      let isStart := decide (name = "removeprefix")
      return made (if part.isEmpty || !isEdge isStart part points then points
        else if isStart then points.drop part.length
        else points.take (points.length - part.length))
    | "replace" =>
      let found ← Value.lift (given.placed ["", "", ""] 2)
      let old ← pointsOf isBytes ((Arguments.at? found 0).getD .nothing)
      let new ← pointsOf isBytes ((Arguments.at? found 1).getD .nothing)
      return made (replaced old new ((← m.bound? (Arguments.at? found 2)).getD (-1)) points)
    | "maketrans" => return some (← translation given)
    | "translate" =>
      if isBytes then
        let found ← Value.lift (given.placed ["", "delete"] 1)
        return some (← replacedOctets points ((Arguments.at? found 0).getD .nothing)
          (Arguments.at? found 1))
      else
        let found ← Value.lift (given.placed [""] 1)
        return some (← m.translated points ((Arguments.at? found 0).getD .nothing))
    | "encode" | "decode" =>
      let found ← Value.lift (given.placed ["encoding", "errors"] 0)
      let encoding ← Machine.text ((Arguments.at? found 0).getD (.text "utf-8"))
      let errors ← Machine.text ((Arguments.at? found 1).getD (.text "strict"))
      if isBytes then
        return some (.text (Quoted.textOf (← Value.lift (decode points encoding errors))))
      else return some (.bytes (← Value.lift (encode points encoding errors)))
    | "hex" => return some (← m.hexOf points given)
    | "format" =>
      let text ← m.template (Quoted.textOf points) (some given.values) fun name =>
        match List.lookup name given.named with
        | some value => return value
        | none => throw .noKey
      return some (.text text)
    | "format_map" =>
      let found ← Value.lift (given.placed [""] 1)
      let table := (Arguments.at? found 0).getD .nothing
      let text ← m.template (Quoted.textOf points) none fun name => m.item table (.text name)
      return some (.text text)
    | _ => return none

end Machine

end TypeHint

end CallPlan
