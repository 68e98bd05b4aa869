import CallPlan.TypeHint.Attribute
import CallPlan.TypeHint.Percent

/-!
# CallPlan.TypeHint.Template

Texts with fields in braces.

* A field names a value, by its place or its name, and attributes and items that lead from it to the
  value that is shown; then as which text it is shown, and the layout, in which fields may stand
  again.
* Fields without a name take one value after the other; they do not go together with numbers.
-/

namespace CallPlan

namespace TypeHint

/-- A field of a template; texts are code points. -/
structure TemplateField where
  name : List Nat
  conversion : Option Nat := none
  layout : List Nat := []
  /-- Whether fields stand in the layout. -/
  isNested : Bool := false

namespace TemplateField

/-! ## Reading templates -/

/-- The name of a field: code points up to the sign that ends it, where what stands in square
brackets does not count. A step of fuel for each code point. -/
def namePart : (fuel : Nat) → List Nat → Except Fault (List Nat × Option Nat × List Nat)
  | 0, ns => .ok ([], none, ns)
  | _, [] => .ok ([], none, [])
  | fuel + 1, n :: rest =>
    if n = 0x7b then .error (.badValue "unexpected '\x7b' in field name")
    else if n = 0x7d || n = 0x3a || n = 0x21 then .ok ([], some n, rest)
    else if n = 0x5b then
      let inner := rest.takeWhile (· ≠ 0x5d)
      (namePart fuel (rest.drop inner.length)).map fun (name, after) => (n :: inner ++ name, after)
    else (namePart fuel rest).map fun (name, after) => (n :: name, after)

/-- The layout of a field up to the brace that closes the field; `depth` counts open braces. -/
def layoutPart : (depth : Nat) → List Nat → Except Fault (List Nat × Bool × List Nat)
  | _, [] => .error (.badValue "unmatched '\x7b' in format spec")
  | depth, n :: rest =>
    if n = 0x7d && depth = 0 then .ok ([], false, rest)
    else
      let depth := if n = 0x7b then depth + 1 else if n = 0x7d then depth - 1 else depth
      (layoutPart depth rest).map fun (layout, isNested, after) =>
        (n :: layout, isNested || n = 0x7b, after)

/-- A field after its opening brace, and what follows it. -/
def read (ns : List Nat) : Except Fault (TemplateField × List Nat) := do
  let (name, ending, rest) ← namePart (ns.length + 1) ns
  match ending with
  | none => throw (.badValue "expected '\x7d' before end of string")
  | some 0x7d => return (⟨name, none, [], false⟩, rest)
  | some 0x3a => do
    let (layout, isNested, rest) ← layoutPart 0 rest
    return (⟨name, none, layout, isNested⟩, rest)
  | some _ =>
    match rest with
    | [] => throw (.badValue "end of string while looking for conversion specifier")
    | c :: 0x7d :: rest => return (⟨name, some c, [], false⟩, rest)
    | c :: 0x3a :: rest => do
      let (layout, isNested, rest) ← layoutPart 0 rest
      return (⟨name, some c, layout, isNested⟩, rest)
    | [_] => throw (.badValue "unmatched '\x7b' in format spec")
    | _ => throw (.badValue "expected ':' after conversion specifier")

/-- The text at the start of a template, whether a field follows it, and what follows. -/
def literalPart : List Nat → Except Fault (List Nat × Bool × List Nat)
  | [] => .ok ([], false, [])
  | 0x7b :: 0x7b :: rest => (literalPart rest).map fun (text, more) => (0x7b :: text, more)
  | 0x7d :: 0x7d :: rest => (literalPart rest).map fun (text, more) => (0x7d :: text, more)
  | [0x7b] => .error (.badValue "Single '\x7b' encountered in format string")
  | 0x7d :: _ => .error (.badValue "Single '\x7d' encountered in format string")
  | 0x7b :: rest => .ok ([], true, rest)
  | n :: rest => (literalPart rest).map fun (text, more) => (n :: text, more)

/-- How a field leads from one value to another one. -/
inductive Lead where
  | attribute (name : List Nat)
  | item (name : List Nat)

/-- How a field leads from its first value to the one that is shown; a step of fuel for each
step. -/
def leads : (fuel : Nat) → List Nat → Except Fault (List Lead)
  | 0, _ => .ok []
  | _, [] => .ok []
  | fuel + 1, n :: rest => do
    let empty : Fault := .badValue "Empty attribute in format string"
    if n = 0x2e then
      let name := rest.takeWhile fun n => n ≠ 0x2e && n ≠ 0x5b
      if name.isEmpty then throw empty
      else return .attribute name :: (← leads fuel (rest.drop name.length))
    else if n = 0x5b then
      let name := rest.takeWhile (· ≠ 0x5d)
      match rest.drop name.length with
      | [] => throw (.badValue "Missing ']' in format string")
      | _ :: after =>
        if name.isEmpty then throw empty else return .item name :: (← leads fuel after)
    else throw (.badValue "Only '.' or '[' may follow ']' in format field specifier")

/-- The number that a text of digits is. -/
def place? (ns : List Nat) : Except Fault (Option Nat) := do
  let (n, rest) ← Layout.number ns
  return if rest.isEmpty then n else none

end TemplateField

/-- How the fields of a template are numbered. -/
inductive Numbering where
  | open
  | given
  | counted (next : Nat)

namespace Machine

variable (m : Machine)

/-! ## Values under layouts -/

/-- A value under a layout. -/
def laidOut (value : Value) (layout : String) : Action String := do
  match ← m.special? value "__format__" [.text layout] with
  | some shown => Machine.text shown
  | none =>
    if layout.isEmpty then m.display value
    else
      match Layout.plain? (← value.plain) layout with
      | some outcome => Value.lift outcome
      | none => throw .unsuited

/-- A value as it is shown: on its own, within others, or so in ASCII. -/
def converted (conversion : Option Nat) (value : Value) : Action Value := do
  match conversion with
  | none => return value
  | some 0x73 => return .text (← m.display value)
  | some 0x72 => return .text (← m.literal value)
  | some 0x61 => return .text (← m.asciiLiteral value)
  | some c =>
    throw (.badValue ("Unknown conversion specifier " ++ Layout.named c))

/-! ## Templates -/

/-- The value that a field begins with, and how further fields are numbered. -/
def fieldValue (values : Option (List Value)) (named : String → Action Value)
    (numbering : Numbering)
    (name : List Nat) : Action (Value × Numbering) := do
  let at' (k : Nat) : Action Value :=
    match values with
    | none => throw (.badValue "Format string contains positional fields")
    | some values =>
      match values[k]? with
      | some value => return value
      | none => throw .noPosition
  if name.isEmpty then
    match numbering with
    | .given =>
      throw (.badValue
        "cannot switch from manual field specification to automatic field numbering")
    | .open => return (← at' 0, .counted 1)
    | .counted k => return (← at' k, .counted (k + 1))
  else
    match ← Value.lift (TemplateField.place? name) with
    | none => return (← named (Quoted.textOf name), numbering)
    | some k =>
      match numbering with
      | .counted _ =>
        throw (.badValue
          "cannot switch from automatic field numbering to manual field specification")
      | _ => return (← at' k, .given)

/-- The value that a field leads to. -/
def follow (value : Value) (leads : List TemplateField.Lead) : Action Value :=
  leads.foldlM (fun value lead => do
    match lead with
    | .attribute name => m.attributeOf value (Quoted.textOf name)
    | .item name =>
      match ← Value.lift (TemplateField.place? name) with
      | some k => m.item value (.int k)
      | none => m.item value (.text (Quoted.textOf name))) value

/-- The text that a template makes of values, if there are any by place; `level` says how deep
fields may stand in layouts, and a step of fuel is taken for each code point. -/
def templateIn (values : Option (List Value)) (named : String → Action Value) :
    (level fuel : Nat) → Numbering → List Nat → Action (String × Numbering)
  | 0, _, _, _ => throw (.badValue "Max string recursion exceeded")
  | _, 0, numbering, _ => return ("", numbering)
  | level + 1, fuel + 1, numbering, ns => do
    let (literal, isField, rest) ← Value.lift (TemplateField.literalPart ns)
    if !isField then return (Quoted.textOf literal, numbering)
    else
      let (field, rest) ← Value.lift (TemplateField.read rest)
      let first := field.name.takeWhile fun n => n ≠ 0x2e && n ≠ 0x5b
      let (value, numbering) ← fieldValue values named numbering first
      let behind := field.name.drop first.length
      let leads ← Value.lift (TemplateField.leads (behind.length + 1) behind)
      let value ← m.converted field.conversion (← m.follow value leads)
      let (layout, numbering) ←
        if field.isNested then templateIn values named level fuel numbering field.layout
        else pure (Quoted.textOf field.layout, numbering)
      let shown ← m.laidOut value layout
      let (more, numbering) ← templateIn values named (level + 1) fuel numbering rest
      return (Quoted.textOf literal ++ shown ++ more, numbering)

/-- The text that a template makes of values and of named ones. -/
def template (text : String) (values : Option (List Value)) (named : String → Action Value) :
    Action String := do
  let ns := Text.points text.toList
  return (← m.templateIn values named 2 (ns.length + 1) .open ns).1

end Machine

end TypeHint

end CallPlan
