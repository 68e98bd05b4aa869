import CallPlan.Json.Literal
import CallPlan.Number.Shortest
import CallPlan.Text.Digit
import CallPlan.TypeHint.Equality

/-!
# CallPlan.TypeHint.Shown

Values as they are shown.

* A text is shown bare on its own and quoted within other values (`literal` and `display`).
* A type is shown as it would be written in a type hint, with the module that it comes from before
  its name, unless it is there without being given.
* A whole number with too many digits is not shown at all.
-/

namespace CallPlan

namespace TypeHint

namespace Shown

/-- A whole number in decimal digits. -/
def int (n : Int) : Except Fault String :=
  -- a number with fewer bits than this has few enough digits
  if n.natAbs.log2 < 14000 then .ok (toString n)
  else
    let digits := Nat.toDigits 10 n.natAbs
    if Text.digitLimit < digits.length then .error (.badValue (LongNumber.message {}))
    else .ok ((if n < 0 then "-" else "") ++ String.ofList digits)

/-- A number that is not whole. -/
def float (x : Binary64) : String := String.ofList (DecimalLayout.message.text x)

/-- A part of a complex number, which has a point only if it needs one. -/
def part (x : Binary64) : String :=
  let text := float x
  if text.endsWith ".0" then (text.dropEnd 2).toString else text

/-- A complex number. -/
def complex (x y : Binary64) : String :=
  if x.isZero && !(match x with
      | .finite negative _ => negative
      | _ => false) then part y ++ "j"
  else
    let sign := if (part y).startsWith "-" then "" else "+"
    "(" ++ part x ++ sign ++ part y ++ "j)"

/-- An octet in a literal of bytes. -/
def octet (quote : Char) (n : Nat) : List Char :=
  let c := Char.ofNat n
  if c = quote || c = '\\' then ['\\', c]
  else if c = '\t' then ['\\', 't']
  else if c = '\n' then ['\\', 'n']
  else if c = '\r' then ['\\', 'r']
  else if 0x20 ≤ n && n < 0x7f then [c]
  else '\\' :: 'x' :: Text.hexDigits 2 n

/-- A literal of bytes. -/
def bytes (octets : List Nat) : String :=
  let quote := if octets.contains 0x27 && !octets.contains 0x22 then '\x22' else '\x27'
  String.ofList ('b' :: quote :: (octets.flatMap (octet quote) ++ [quote]))

/-- A text in quotes. -/
def quoted (text : String) : String := String.ofList (Text.quoted text)

/-- A class by its name, after the module that it comes from. -/
def typeName (name : String) : String :=
  match Class.find? name with
  | some entry => if entry.home = "builtins" then name else entry.home ++ "." ++ name
  | none => name

/-- The module that a function comes from, under the name that it goes by itself. -/
def functionHome (name : String) : String :=
  let home := ".".intercalate (name.splitOn ".").dropLast
  if nativeHomes.contains (home ++ ".") || nativeFunctions.contains name then "_" ++ home else home

/-- A function that is there from the start. -/
def function (name : String) : String :=
  let own := (name.splitOn ".").getLastD name
  if (Value.function name).plainClass = "function" then "<function " ++ own ++ " at 0x7f0000000000>"
  else "<built-in function " ++ own ++ ">"

/-- A member of a class. -/
def member (type name : String) : String :=
  let of' (kind : String) : String :=
    "<" ++ kind ++ " '" ++ name ++ "' of '" ++ type ++ "' objects>"
  match Class.memberKind type name with
  | .slot => of' "slot wrapper"
  | .method => of' "method"
  | .classMethod => "<built-in method " ++ name ++ " of type object at 0x7f0000000000>"
  | .function => "<function " ++ type ++ "." ++ name ++ " at 0x7f0000000000>"
  | .derivedPart => of' "attribute"
  | .part => of' "member"
  | .property => "<property object at 0x7f0000000000>"

/-- Texts with commas between them. -/
def listed (texts : List String) : String := ", ".intercalate texts

/-- What stands in braces. -/
def braced (text : String) : String := "\x7b" ++ text ++ "\x7d"

/-- The entries of a table that counts items: the largest counts first, if all are whole numbers. -/
def byCount (entries : List (Value × Value)) : List (Value × Value) :=
  match entries.mapM fun (_, count) => count.int? with
  | none => entries
  | some counts =>
    ((entries.zip counts).mergeSort fun (_, a) (_, b) => decide (b ≤ a)).map Prod.fst

/-- A value as it is shown within others; a step of fuel for each level of it. -/
def literalIn (store : Store) : (fuel : Nat) → Value → Except Fault String
  | 0, _ => .error .tooDeep
  | fuel + 1, value => do
    let show' := literalIn store fuel
    let all (values : List Value) : Except Fault String := return listed (← values.mapM show')
    let entry (pair : Value × Value) : Except Fault String :=
      return (← show' pair.1) ++ ": " ++ (← show' pair.2)
    -- a value where a type stands
    let typeText (value : Value) : Except Fault String :=
      match value with
      | .type name => return typeName name
      | .ellipsis => return "..."
      | .function name =>
        return if (Value.function name).plainClass = "function" then
            (name.splitOn ".").getLastD name
          else function name
      | .tuple items => return "[" ++ (← all items) ++ "]"
      | .reference address =>
        match store.get? address with
        | some (.type name ..) => return "typing." ++ name
        | some (.closure _) => return "<lambda>"
        | _ => show' value
      | value => show' value
    let types (values : List Value) : Except Fault String := do
      if values.isEmpty then return "()" else return listed (← values.mapM typeText)
    -- a value where a class with arguments, or one of several, shows it
    let argumentText (value : Value) : Except Fault String :=
      match value with
      | .reference address =>
        match store.get? address with
        | some (.list items) => return "[" ++ listed (← items.mapM show') ++ "]"
        | some (.closure _) => return "typing.<lambda>"
        | _ => typeText value
      | .function name =>
        let home := functionHome name
        return (if home.isEmpty then "" else home ++ ".") ++ (name.splitOn ".").getLastD name
      | .tuple _ => show' value
      | value => typeText value
    match value with
    | .nothing => return "None"
    | .ellipsis => return "Ellipsis"
    | .notImplemented => return "NotImplemented"
    | .bool b => return if b then "True" else "False"
    | .int n => int n
    | .float x => return float x
    | .complex x y => return complex x y
    | .text s => return quoted s
    | .bytes octets => return bytes octets
    | .tuple [item] => return "(" ++ (← show' item) ++ ",)"
    | .tuple items => return "(" ++ (← all items) ++ ")"
    | .frozenSet items =>
      if items.isEmpty then return "frozenset()"
      else return "frozenset(" ++ braced (← all items) ++ ")"
    | .range start stop step =>
      return "range(" ++ toString start ++ ", " ++ toString stop ++
        (if step = 1 then "" else ", " ++ toString step) ++ ")"
    | .slice start stop step => return "slice(" ++ (← all [start, stop, step]) ++ ")"
    | .module name => return "<module '" ++ name ++ "'>"
    | .function name => return function name
    | .member type name => return member type name
    | .method owner name =>
      return "<built-in method " ++ name ++ " of " ++ store.className owner ++
        " object at 0x7f0000000000>"
    | .type "Any" => return "typing.Any"
    | .type name => return "<class '" ++ typeName name ++ "'>"
    | .alias name | .form name => return "typing." ++ name
    | .variable kind _ name fields =>
      let holds (field : String) : Bool :=
        match List.lookup field fields with
        | some (.bool b) => b
        | _ => false
      let sign := if kind = .types then ""
        else if holds "__covariant__" then "+" else if holds "__contravariant__" then "-" else "~"
      return sign ++ name
    | .newType _ name _ => return "typing." ++ name
    | .forward text _ => return "ForwardRef(" ++ quoted text ++ ")"
    | .applied origin parts isUnpacked =>
      let texts ← parts.mapM argumentText
      return (if isUnpacked then "*" else "") ++ (← argumentText origin) ++ "[" ++
        (if texts.isEmpty then "()" else listed texts) ++ "]"
    | .generic "Union" [.type "NoneType", part] | .generic "Union" [part, .type "NoneType"] =>
      return "typing.Optional[" ++ (← typeText part) ++ "]"
    | .generic "Annotated" (type :: marks) =>
      return "typing.Annotated[" ++ (← typeText type) ++ ", " ++ (← all marks) ++ "]"
    | .generic "Unpack" [part] => return "*" ++ (← show' part)
    | .generic "Callable" parts =>
      match parts.reverse with
      | [result, .ellipsis] => return "typing.Callable[..., " ++ (← typeText result) ++ "]"
      | result :: before =>
        return "typing.Callable[[" ++ listed (← before.reverse.mapM typeText) ++ "], " ++
          (← typeText result) ++ "]"
      | [] => return "typing.Callable"
    | .generic origin parts =>
      return "typing." ++ Names.genericName origin ++ "[" ++ (← types parts) ++ "]"
    | .choice parts =>
      return " | ".intercalate (← parts.mapM fun
        | .type "NoneType" => .ok "None"
        | part => argumentText part)
    | .view kind address =>
      match store.get? address, kind with
      | some (.table entries), .keys =>
        return "dict_keys([" ++ (← all (entries.map Prod.fst)) ++ "])"
      | some (.table entries), .values =>
        return "dict_values([" ++ (← all (entries.map Prod.snd)) ++ "])"
      | some (.table entries), .entries =>
        return "dict_items([" ++ (← all (entries.map fun (k, v) => .tuple [k, v])) ++ "])"
      | some (.table entries), .whole =>
        return "mappingproxy(" ++ braced (listed (← entries.mapM entry)) ++ ")"
      | _, _ => return "<>"
    | .reference address =>
      match store.get? address with
      | some (.list items) => return "[" ++ (← all items) ++ "]"
      | some (.table entries) => return braced (listed (← entries.mapM entry))
      | some (.set items) => if items.isEmpty then return "set()" else return braced (← all items)
      | some (.octets octets) => return "bytearray(" ++ bytes octets ++ ")"
      | some (.type name ..) => return "<class 'typing." ++ name ++ "'>"
      | some (.record type fields plain) => record store show' type fields plain
      | some (.closure _) => return "<function <lambda> at 0x7f0000000000>"
      | some (.stream "generator" _) => return "<generator object <genexpr> at 0x7f0000000000>"
      | some (.stream type _) => return "<" ++ type ++ " object at 0x7f0000000000>"
      | _ => return "<object object at 0x7f0000000000>"
where
  /-- A value of a class. -/
  record (store : Store) (show' : Value → Except Fault String) (type : Value)
      (fields : List (String × Value)) (plain : Value) : Except Fault String := do
    let named (values : List (String × Value)) : Except Fault String :=
      return listed (← values.mapM fun (name, value) => return name ++ "=" ++ (← show' value))
    let field (name : String) : Value := (List.lookup name fields).getD .nothing
    let given (value : Value) : Except Fault (List String) :=
      match value with
      | .tuple items => items.mapM show'
      | _ => return []
    let givenNames (value : Value) : Except Fault (List String) :=
      match value with
      | .reference address =>
        match store.get? address with
        | some (.table entries) => entries.mapM fun (key, value) =>
          match key with
          | .text name => return name ++ "=" ++ (← show' value)
          | key => show' key
        | _ => return []
      | _ => return []
    let originName (value : Value) : Except Fault String :=
      match value with
      | .variable _ _ name _ => return name
      | value => show' value
    let own := match type with
      | .type name => name
      | .reference address =>
        match store.get? address with
        | some (.type name ..) => name
        | _ => ""
      | _ => ""
    let base := store.baseName type
    match base, plain with
    | "SimpleNamespace", _ => return "namespace(" ++ (← named fields) ++ ")"
    | "deque", plain => return "deque(" ++ (← show' plain) ++ ")"
    | "Counter", plain =>
      match plain with
      | .reference address =>
        match store.get? address with
        | some (.table []) | none => return "Counter()"
        | some (.table entries) =>
          let pairs ← (byCount entries).mapM fun (k, v) =>
            return (← show' k) ++ ": " ++ (← show' v)
          return "Counter(" ++ braced (listed pairs) ++ ")"
        | some _ => return "Counter()"
      | _ => return "Counter()"
    | "defaultdict", plain =>
      let factory := (List.lookup "default_factory" fields).getD .nothing
      return "defaultdict(" ++ (← show' factory) ++ ", " ++ (← show' plain) ++ ")"
    | "OrderedDict", .reference address =>
      match store.get? address with
      | some (.table []) => return "OrderedDict()"
      | some (.table entries) =>
        let pairs ← entries.mapM fun (k, v) => show' (.tuple [k, v])
        return "OrderedDict([" ++ listed pairs ++ "])"
      | _ => return "OrderedDict()"
    | "ChainMap", _ =>
      match field "maps" with
      | .reference address =>
        match store.get? address with
        | some (.list tables) => return "ChainMap(" ++ listed (← tables.mapM show') ++ ")"
        | _ => return "ChainMap()"
      | _ => return "ChainMap()"
    | "UserDict", plain | "UserList", plain | "UserString", plain => show' plain
    | "odict_keys", plain | "odict_values", plain | "odict_items", plain =>
      return "o" ++ (← show' plain)
    | "KeysView", _ | "ValuesView", _ | "ItemsView", _ =>
      return base ++ "(" ++ (← show' (field "_mapping")) ++ ")"
    | "memoryview", _ => return "<memory at 0x7f0000000000>"
    | "classmethod", _ | "staticmethod", _ =>
      return "<" ++ base ++ "(" ++ (← show' (field "__func__")) ++ ")>"
    | "itemgetter", _ | "attrgetter", _ =>
      match field "items" with
      | .tuple items => return "operator." ++ base ++ "(" ++ listed (← items.mapM show') ++ ")"
      | _ => return "operator." ++ base ++ "()"
    | "methodcaller", _ =>
      return "operator.methodcaller(" ++ listed ((← show' (field "name")) ::
        ((← given (field "args")) ++ (← givenNames (field "keywords")))) ++ ")"
    | "partial", _ =>
      return "functools.partial(" ++ listed ((← show' (field "func")) ::
        ((← given (field "args")) ++ (← givenNames (field "keywords")))) ++ ")"
    | "super", _ =>
      let shownType ← match field "__thisclass__" with
        | .type name => pure name
        | type => show' type
      return "<super: <class '" ++ shownType ++ "'>, " ++
        (match field "__self__" with
        | .nothing => "NULL"
        | value => "<" ++ store.className value ++ " object>") ++ ">"
    | "ParamSpecArgs", _ => return (← originName (field "__origin__")) ++ ".args"
    | "ParamSpecKwargs", _ => return (← originName (field "__origin__")) ++ ".kwargs"
    | "_tuplegetter", _ =>
      return "_tuplegetter(" ++ (← show' (field "index")) ++ ", " ++
        (← show' (field "__doc__")) ++ ")"
    | _, .tuple items =>
      match List.lookup "_fields" fields with
      | some (.tuple names) =>
        let texts := names.map fun
          | .text s => s
          | _ => ""
        return own ++ "(" ++ (← named (texts.zip items)) ++ ")"
      | _ => show' plain
    | base, plain =>
      if Class.isBelow base "BaseException" then
        match List.lookup "args" fields with
        | some (.tuple [item]) => return own ++ "(" ++ (← show' item) ++ ")"
        | some args => return own ++ (← show' args)
        | none => return own ++ "()"
      else if plain.isNothing then return "<" ++ own ++ " object>"
      else show' plain

/-- A value as it is shown within others. -/
def literal (store : Store) (value : Value) : Except Fault String :=
  literalIn store Store.depthLimit value

/-- A value as it is shown on its own: a text bare, and an exception as what it says. -/
def display (store : Store) (value : Value) : Except Fault String :=
  match store.plainIn value with
  | .text s => .ok s
  | _ =>
    match value with
    | .view .whole address => literal store (.reference address)
    | .reference address =>
      match store.get? address with
      | some (.record type fields _) =>
        let base := store.baseName type
        if Class.isBelow base "BaseException" then
          match List.lookup "args" fields with
          | some (.tuple []) | none => .ok ""
          | some (.tuple [item]) =>
            if Class.isBelow base "KeyError" then literal store item
            else match item with
              | .text s => .ok s
              | item => literal store item
          | some args => literal store args
        else literal store value
      | _ => literal store value
    | value => literal store value

end Shown

namespace Value

/-- A fault, or an outcome, as a step of an evaluation. -/
def lift {α : Type} : Except Fault α → Action α
  | .ok a => pure a
  | .error fault => throw fault

/-- A value as it is shown within others, in the store at present. -/
def shown (value : Value) : Action String := do lift (Shown.literal (← get) value)

/-- A value as it is shown on its own, in the store at present. -/
def displayed (value : Value) : Action String := do lift (Shown.display (← get) value)

end Value

end TypeHint

end CallPlan
