import CallPlan.TypeHint.Expr
import CallPlan.TypeHint.Token

/-!
# CallPlan.TypeHint.Grammar

The grammar of expressions.

* From the loosest operator to the tightest: a choice, `or`, `and`, `not`, comparisons, `|`, `^`,
  `&`, shifts, sums, products, signs, powers; then attributes, items and calls.
* `expression?` reads a text that is one expression, or several with commas between them, and
  `header?` the parameters of a function between brackets, each with its type hint.
* Readers take fuel for their depth; a text has less depth than it has characters, times the number
  of levels.
-/

namespace CallPlan

namespace TypeHint

namespace Grammar

/-! ## Single tokens -/

/-- What follows a symbol, if the tokens begin with it. -/
def after? (symbol : String) : List Token → Option (List Token)
  | .symbol s :: rest => if s = symbol then some rest else none
  | _ => none

/-- What follows a reserved word, if the tokens begin with it. -/
def afterWord? (word : String) : List Token → Option (List Token)
  | .word w :: rest => if w = word then some rest else none
  | _ => none

/-- Whether tokens begin with a symbol. -/
def beginsWith (symbol : String) (ts : List Token) : Bool := (after? symbol ts).isSome

/-- Whether the first clause of a comprehension begins here. -/
def beginsClause : List Token → Bool
  | .word "for" :: _ | .word "async" :: .word "for" :: _ => true
  | _ => false

/-- Whether a name is given to a value here. -/
def givesName : List Token → Bool
  | .name _ :: .symbol ":=" :: _ => true
  | _ => false

/-- The constant that a reserved word stands for. -/
def constant? (word : String) : Option Constant :=
  List.lookup word [("None", .nothing), ("True", .bool true), ("False", .bool false)]

/-- The comparison at the front of some tokens. -/
def comparison? : List Token → Option (String × List Token)
  | .word "not" :: .word "in" :: rest => some ("not in", rest)
  | .word "is" :: .word "not" :: rest => some ("is not", rest)
  | .word "in" :: rest => some ("in", rest)
  | .word "is" :: rest => some ("is", rest)
  | .symbol s :: rest =>
    if ["==", "!=", "<", ">", "<=", ">="].contains s then some (s, rest) else none
  | _ => none

/-- The levels of operators between two values, from the loosest to the tightest. -/
def binaryLevels : List (List String) :=
  [["|"], ["^"], ["&"], ["<<", ">>"], ["+", "-"], ["*", "/", "//", "%", "@"]]

/-- The sign at the front of some tokens. -/
def sign? : List Token → Option (String × List Token)
  | .symbol s :: rest => if ["+", "-", "~"].contains s then some (s, rest) else none
  | _ => none

/-! ## Texts with expressions in them -/

/-- What stands before the next brace, and what follows. At the outer level a doubled brace is a
single one, and a closing brace does not stand alone. -/
def literalPart (isRaw isNested : Bool) : (fuel : Nat) → List Char → Option (List Char × List Char)
  | 0, _ => none
  | _, [] => some ([], [])
  | fuel + 1, c :: rest =>
    let continueWith (made : List Char) (rest : List Char) : Option (List Char × List Char) :=
      (literalPart isRaw isNested fuel rest).map fun (more, rest) => (made ++ more, rest)
    match isRaw, c, rest with
    | false, '\\', 'N' :: '{' :: after =>
      let name := after.takeWhile (· ≠ '}')
      continueWith ("\\N\x7b".toList ++ name ++ (after.drop name.length).take 1)
        (after.drop (name.length + 1))
    | false, '\\', d :: after =>
      if d = '{' || d = '}' then continueWith [c] rest else continueWith [c, d] after
    | _, _, _ =>
      if c = '{' || c = '}' then
        if isNested then some ([], c :: rest)
        else if rest.head? = some c then continueWith [c] rest.tail
        else if c = '}' then none
        else some ([], c :: rest)
      else continueWith [c] rest

/-- The bracket that closes one. -/
def closing? (c : Char) : Option Char :=
  List.lookup c [('(', ')'), ('[', ']'), ('{', '}')]

/-- Where an expression in braces stands while it is read. -/
structure PartState where
  /-- The quote that is open, and whether it is a long one. -/
  quote : Option (Char × Bool) := none
  /-- The brackets that will close those that are open, the last one first. -/
  open_ : List Char := []

/-- The expression that stands after an opening brace, and what follows it; a step of fuel for each
character. It has neither backslashes nor comments. -/
def expressionPart : (fuel : Nat) → PartState → List Char → Option (List Char × List Char)
  | 0, _, _ | _, _, [] => none
  | fuel + 1, state, c :: rest =>
    let continueWith (state : PartState) (made rest : List Char) :
        Option (List Char × List Char) :=
      (expressionPart fuel state rest).map fun (more, rest) => (made ++ more, rest)
    let isTriple := [c, c].isPrefixOf rest
    if c = '\\' then none
    else
      match state.quote with
      | some (quote, isLong) =>
        if c = quote && (!isLong || isTriple) then
          if isLong then continueWith { state with quote := none } [c, c, c] (rest.drop 2)
          else continueWith { state with quote := none } [c] rest
        else continueWith state [c] rest
      | none =>
        if c = '\x27' || c = '\x22' then
          if isTriple then
            continueWith { state with quote := some (c, true) } [c, c, c] (rest.drop 2)
          else continueWith { state with quote := some (c, false) } [c] rest
        else if let some close := closing? c then
          continueWith { state with open_ := close :: state.open_ } [c] rest
        else if c = '#' then none
        else if state.open_.isEmpty && ['!', ':', '}', '=', '<', '>'].contains c then
          if rest.head? = some '=' && ['!', '=', '<', '>'].contains c then
            continueWith state [c, '='] rest.tail
          else if c = '<' || c = '>' then continueWith state [c] rest
          else some ([], c :: rest)
        else if [')', ']', '}'].contains c then
          match state.open_ with
          | close :: before =>
            if c = close then continueWith { state with open_ := before } [c] rest else none
          | [] => none
        else continueWith state [c] rest

/-- The conversion that follows an exclamation mark, if there is one. -/
def conversion? : List Char → Option (Option Char × List Char)
  | '!' :: c :: rest => if ['s', 'r', 'a'].contains c then some (some c, rest) else none
  | '!' :: [] => none
  | rest => some (none, rest)

/-- Whether a character is an ASCII blank. -/
def isAsciiBlank (c : Char) : Bool := c = ' ' || (9 ≤ c.toNat && c.toNat ≤ 13)

/-! ## Parameters -/

/-- An entry of a list of parameters. -/
inductive HeaderEntry where
  /-- What stands before can be given by position alone. -/
  | slash
  /-- What follows can be given under names alone. -/
  | star
  /-- A parameter, and how many stars stand before it. -/
  | parameter (stars : Nat) (name : String) (hint default : Option Expr)

/-- The parameters that entries stand for. `isNamed` says whether a star came before, and
`hasDefault` whether an ordinary parameter with a default did. -/
def arranged (isNamed hasDefault : Bool) (before : List HeaderParameter) :
    List HeaderEntry → Option (List HeaderParameter)
  | [] => some before.reverse
  | .slash :: rest =>
    if isNamed || before.isEmpty || before.any (·.kind = .positional) then none
    else arranged isNamed hasDefault (before.map ({ · with kind := .positional })) rest
  | .star :: rest =>
    match rest with
    | .parameter 0 .. :: _ =>
      if isNamed then none else arranged true hasDefault before rest
    | _ => none
  | .parameter 0 name hint default :: rest =>
    if isNamed then arranged isNamed hasDefault (⟨name, .named, hint, default⟩ :: before) rest
    else if hasDefault && default.isNone then none
    else
      arranged isNamed (hasDefault || default.isSome) (⟨name, .ordinary, hint, default⟩ :: before)
      rest
  | .parameter 1 name hint default :: rest =>
    if isNamed || default.isSome then none
    else arranged true hasDefault (⟨name, .rest, hint, none⟩ :: before) rest
  | .parameter _ name hint default :: rest =>
    if default.isSome || !rest.isEmpty then none
    else some (⟨name, .extras, hint, none⟩ :: before).reverse

/-- The parameters of a list of entries, whose names are distinct. -/
def parametersOf (entries : List HeaderEntry) : Option (List HeaderParameter) := do
  let parameters ← arranged false false [] entries
  let names := parameters.map (·.name)
  guard (decide names.Nodup && !names.contains "__debug__")
  return parameters

/-! ## Targets -/

mutual

/-- Whether an expression may be given a value. -/
def isTarget : Expr → Bool
  | .name name => name ≠ "__debug__"
  | .node (.attribute name) _ => name ≠ "__debug__"
  | .node .item _ => true
  | .node .tuple parts | .node .list parts => areTargets false parts
  | _ => false

/-- Whether expressions may be given the items of a value, of which one may be given several. -/
def areTargets (hasStar : Bool) : List Expr → Bool
  | [] => true
  | .node .star [part] :: rest => !hasStar && isTarget part && areTargets true rest
  | part :: rest => isTarget part && areTargets hasStar rest

end

/-! ## Expressions -/

mutual

/-- A choice, a function, or anything tighter. -/
def expression : (fuel : Nat) → List Token → Option (Expr × List Token)
  | 0, _ => none
  | fuel + 1, ts =>
    match afterWord? "lambda" ts with
    | some rest => do
      let (entries, rest) ← entries fuel false ":" rest
      let parameters ← parametersOf entries
      let rest ← after? ":" rest
      let (body, rest) ← expression fuel rest
      let formals := parameters.map fun p => ⟨p.name, p.kind, p.default.isSome⟩
      return (.function formals (parameters.filterMap (·.default)) body, rest)
    | none => do
      let (value, rest) ← either fuel ts
      match afterWord? "if" rest with
      | none => return (value, rest)
      | some rest => do
        let (condition, rest) ← either fuel rest
        let rest ← afterWord? "else" rest
        let (other, rest) ← expression fuel rest
        return (.choice condition value other, rest)

/-- The entries of a list of parameters up to a closing symbol, which stays. -/
def entries : (fuel : Nat) → (isHinted : Bool) → (close : String) → List Token →
    Option (List HeaderEntry × List Token)
  | 0, _, _, _ => none
  | fuel + 1, isHinted, close, ts =>
    if beginsWith close ts then some ([], ts)
    else do
      let (first, rest) ← entry fuel isHinted ts
      match after? "," rest with
      | none => if beginsWith close rest then return ([first], rest) else none
      | some rest => do
        let (more, rest) ← entries fuel isHinted close rest
        return (first :: more, rest)

/-- An entry of a list of parameters. -/
def entry : (fuel : Nat) → (isHinted : Bool) → List Token → Option (HeaderEntry × List Token)
  | 0, _, _ => none
  | fuel + 1, isHinted, ts =>
    match ts with
    | .symbol "/" :: rest => some (.slash, rest)
    | .symbol "**" :: .name name :: rest => parameter fuel isHinted 2 name rest
    | .symbol "*" :: .name name :: rest => parameter fuel isHinted 1 name rest
    | .symbol "*" :: rest => some (.star, rest)
    | .name name :: rest => parameter fuel isHinted 0 name rest
    | _ => none

/-- The type hint and the default of a parameter after its name. -/
def parameter : (fuel : Nat) → (isHinted : Bool) → (stars : Nat) → (name : String) → List Token →
    Option (HeaderEntry × List Token)
  | 0, _, _, _, _ => none
  | fuel + 1, isHinted, stars, name, ts => do
    let (hint, rest) ← match after? ":" ts with
      | some rest =>
        if isHinted then do
          let (hint, rest) ← if stars = 1 then starItem fuel rest else expression fuel rest
          some (some hint, rest)
        else some (none, ts)
      | none => some (none, ts)
    match after? "=" rest with
    | none => return (.parameter stars name hint none, rest)
    | some rest => do
      let (default, rest) ← expression fuel rest
      return (.parameter stars name hint (some default), rest)

/-- An expression that may get a name. -/
def named : (fuel : Nat) → List Token → Option (Expr × List Token)
  | 0, _ => none
  | fuel + 1, ts =>
    match ts with
    | .name name :: .symbol ":=" :: rest => do
      let (value, rest) ← expression fuel rest
      return (.assign name value, rest)
    | ts => expression fuel ts

/-- Conditions of which one must hold. -/
def either : (fuel : Nat) → List Token → Option (Expr × List Token)
  | 0, _ => none
  | fuel + 1, ts => do
    let (left, rest) ← both fuel ts
    match afterWord? "or" rest with
    | none => return (left, rest)
    | some rest => do
      let (right, rest) ← either fuel rest
      return (.either left right, rest)

/-- Conditions of which all must hold. -/
def both : (fuel : Nat) → List Token → Option (Expr × List Token)
  | 0, _ => none
  | fuel + 1, ts => do
    let (left, rest) ← denial fuel ts
    match afterWord? "and" rest with
    | none => return (left, rest)
    | some rest => do
      let (right, rest) ← both fuel rest
      return (.both left right, rest)

/-- A condition that may be denied. -/
def denial : (fuel : Nat) → List Token → Option (Expr × List Token)
  | 0, _ => none
  | fuel + 1, ts =>
    match afterWord? "not" ts with
    | some rest => do
      let (value, rest) ← denial fuel rest
      return (.node (.unary "not") [value], rest)
    | none => do
      let (first, rest) ← binary fuel binaryLevels ts
      let (more, rest) ← comparisons fuel rest
      if more.isEmpty then return (first, rest)
      else return (.node (.compare (more.map Prod.fst)) (first :: more.map Prod.snd), rest)

/-- The comparisons that follow a value. -/
def comparisons : (fuel : Nat) → List Token → Option (List (String × Expr) × List Token)
  | 0, _ => none
  | fuel + 1, ts =>
    match comparison? ts with
    | none => some ([], ts)
    | some (operator, rest) => do
      let (value, rest) ← binary fuel binaryLevels rest
      let (more, rest) ← comparisons fuel rest
      return ((operator, value) :: more, rest)

/-- Values between operators of the first of some levels. -/
def binary : (fuel : Nat) → (levels : List (List String)) → List Token →
    Option (Expr × List Token)
  | 0, _, _ => none
  | fuel + 1, [], ts => signed fuel ts
  | fuel + 1, level :: levels, ts => do
    let (left, rest) ← binary fuel levels ts
    binaryRest fuel level levels left rest

/-- The operators of a level that follow a value, each with the value after it. -/
def binaryRest : (fuel : Nat) → (level : List String) → (levels : List (List String)) →
    (left : Expr) → List Token → Option (Expr × List Token)
  | 0, _, _, _, _ => none
  | fuel + 1, level, levels, left, ts =>
    match ts with
    | .symbol s :: rest =>
      if level.contains s then do
        let (right, rest) ← binary fuel levels rest
        binaryRest fuel level levels (.node (.binary s) [left, right]) rest
      else some (left, ts)
    | ts => some (left, ts)

/-- A value with its signs, or a power. -/
def signed : (fuel : Nat) → List Token → Option (Expr × List Token)
  | 0, _ => none
  | fuel + 1, ts =>
    match sign? ts with
    | some (operator, rest) => do
      let (value, rest) ← signed fuel rest
      return (.node (.unary operator) [value], rest)
    | none => do
      let (base, rest) ← match afterWord? "await" ts with
        | some rest => do
          let (value, rest) ← primary fuel rest
          some (.wait value, rest)
        | none => primary fuel ts
      match after? "**" rest with
      | none => return (base, rest)
      | some rest => do
        let (power, rest) ← signed fuel rest
        return (.node (.binary "**") [base, power], rest)

/-- A value with its attributes, items and calls. -/
def primary : (fuel : Nat) → List Token → Option (Expr × List Token)
  | 0, _ => none
  | fuel + 1, ts => do
    let (base, rest) ← atom fuel ts
    trailers fuel base rest

/-- The attributes, items and calls that follow a value. -/
def trailers : (fuel : Nat) → Expr → List Token → Option (Expr × List Token)
  | 0, _, _ => none
  | fuel + 1, owner, ts =>
    match ts with
    | .symbol "." :: .name name :: rest => trailers fuel (.node (.attribute name) [owner]) rest
    | .symbol "[" :: rest => do
      let (index, rest) ← subscript fuel rest
      trailers fuel (.node .item [owner, index]) rest
    | .symbol "(" :: rest => do
      let (arguments, rest) ← callArguments fuel rest
      let names := arguments.filterMap fun
        | (.name name, _) => some name
        | _ => none
      guard (decide names.Nodup && !names.contains "__debug__")
      trailers fuel (.node (.call (arguments.map Prod.fst)) (owner :: arguments.map Prod.snd)) rest
    | ts => some (owner, ts)

/-- An argument: a value, or a starred one that stands for its items. -/
def argument : (fuel : Nat) → List Token → Option (Expr × List Token)
  | 0, _ => none
  | fuel + 1, ts =>
    match after? "*" ts with
    | some rest => do
      let (value, rest) ← expression fuel rest
      return (.node .star [value], rest)
    | none => named fuel ts

/-- An item of a display: a value, or a starred one that stands for its items. -/
def item : (fuel : Nat) → List Token → Option (Expr × List Token)
  | 0, _ => none
  | fuel + 1, ts =>
    match after? "*" ts with
    | some rest => do
      let (value, rest) ← binary fuel binaryLevels rest
      return (.node .star [value], rest)
    | none => named fuel ts

/-- Items with commas between them up to a closing bracket; a comma may follow the last one. -/
def items : (fuel : Nat) → (close : String) → List Token → Option (List Expr × List Token)
  | 0, _, _ => none
  | fuel + 1, close, ts =>
    match after? close ts with
    | some rest => some ([], rest)
    | none => do
      let (first, rest) ← item fuel ts
      match after? close rest with
      | some rest => return ([first], rest)
      | none => do
        let rest ← after? "," rest
        let (more, rest) ← items fuel close rest
        return (first :: more, rest)

/-- One index or several, up to the closing bracket. -/
def subscript : (fuel : Nat) → List Token → Option (Expr × List Token)
  | 0, _ => none
  | fuel + 1, ts => do
    let (first, rest) ← index fuel ts
    match after? "]" rest with
    | some rest =>
      match first with
      | .node .star _ => return (.node .tuple [first], rest)
      | first => return (first, rest)
    | none => do
      let rest ← after? "," rest
      let (more, rest) ← indices fuel rest
      return (.node .tuple (first :: more), rest)

/-- Further indices up to the closing bracket. -/
def indices : (fuel : Nat) → List Token → Option (List Expr × List Token)
  | 0, _ => none
  | fuel + 1, ts =>
    match after? "]" ts with
    | some rest => some ([], rest)
    | none => do
      let (first, rest) ← index fuel ts
      match after? "]" rest with
      | some rest => return ([first], rest)
      | none => do
        let rest ← after? "," rest
        let (more, rest) ← indices fuel rest
        return (first :: more, rest)

/-- An index: an argument, or bounds with colons between them. -/
def index : (fuel : Nat) → List Token → Option (Expr × List Token)
  | 0, _ => none
  | fuel + 1, ts =>
    if beginsWith "*" ts || givesName ts then argument fuel ts
    else do
      let (lower, rest) ← bound fuel ts
      match after? ":" rest with
      | none => lower.map (·, rest)
      | some rest => do
        let (upper, rest) ← bound fuel rest
        let (step, rest) ← match after? ":" rest with
          | none => some (none, rest)
          | some rest => bound fuel rest
        let orNothing (e : Option Expr) : Expr := e.getD (.constant .nothing)
        return (.node .slice [orNothing lower, orNothing upper, orNothing step], rest)

/-- A bound, which may be left out. -/
def bound : (fuel : Nat) → List Token → Option (Option Expr × List Token)
  | 0, _ => none
  | fuel + 1, ts =>
    if beginsWith ":" ts || beginsWith "]" ts || beginsWith "," ts then some (none, ts)
    else do
      let (value, rest) ← expression fuel ts
      return (some value, rest)

/-- The arguments of a call up to the closing bracket; a comprehension may be the only one. -/
def callArguments : (fuel : Nat) → List Token →
    Option (List (ArgumentForm × Expr) × List Token)
  | 0, _ => none
  | fuel + 1, ts =>
    match after? ")" ts with
    | some rest => some ([], rest)
    | none => do
      let ((form, value), rest) ← callArgument fuel ts
      if beginsClause rest then do
        guard (form = .position)
        let (clauses, rest) ← clauses fuel rest
        let rest ← after? ")" rest
        return ([(.position, .comprehension .stream [value] clauses)], rest)
      else do
        let (more, rest) ← moreArguments fuel rest
        let forms := form :: more.map Prod.fst
        guard (inOrder forms)
        return ((form, value) :: more, rest)
where
  /-- Whether plain values precede names, and no stars follow spread tables. -/
  inOrder : List ArgumentForm → Bool
    | [] => true
    | form :: rest =>
      inOrder rest && match form with
        | .name _ => !rest.contains .position
        | .spreadNames => !rest.contains .position && !rest.contains .spread
        | _ => true

/-- The arguments of a call after one of them. -/
def moreArguments : (fuel : Nat) → List Token →
    Option (List (ArgumentForm × Expr) × List Token)
  | 0, _ => none
  | fuel + 1, ts =>
    match after? ")" ts with
    | some rest => some ([], rest)
    | none => do
      let rest ← after? "," ts
      match after? ")" rest with
      | some rest => return ([], rest)
      | none => do
        let (first, rest) ← callArgument fuel rest
        guard (!beginsClause rest)
        let (more, rest) ← moreArguments fuel rest
        return (first :: more, rest)

/-- An argument of a call. -/
def callArgument : (fuel : Nat) → List Token →
    Option ((ArgumentForm × Expr) × List Token)
  | 0, _ => none
  | fuel + 1, ts => do
    let (form, rest) := match ts with
      | .name name :: .symbol "=" :: rest => (ArgumentForm.name name, rest)
      | .symbol "*" :: rest => (.spread, rest)
      | .symbol "**" :: rest => (.spreadNames, rest)
      | ts => (.position, ts)
    let (value, rest) ← if form = .position then named fuel rest else expression fuel rest
    return ((form, value), rest)

/-- The clauses of a comprehension. -/
def clauses : (fuel : Nat) → List Token → Option (List Clause × List Token)
  | 0, _ => none
  | fuel + 1, ts =>
    match ts with
    | .word "if" :: rest => do
      let (condition, rest) ← either fuel rest
      let (more, rest) ← clauses fuel rest
      return (.filter condition :: more, rest)
    | ts =>
      if !beginsClause ts then some ([], ts)
      else do
        let isAwaited := (afterWord? "async" ts).isSome
        let (target, rest) ← targets fuel (ts.drop (if isAwaited then 2 else 1))
        guard (isTarget target)
        let rest ← afterWord? "in" rest
        let (source, rest) ← either fuel rest
        let (more, rest) ← clauses fuel rest
        return (.loop isAwaited target source :: more, rest)

/-- What a comprehension gives its items to. -/
def targets : (fuel : Nat) → List Token → Option (Expr × List Token)
  | 0, _ => none
  | fuel + 1, ts => do
    let (first, rest) ← target fuel ts
    if beginsWith "," rest then do
      let (more, rest) ← moreTargets fuel rest
      return (.node .tuple (first :: more), rest)
    else
      match first with
      | .node .star _ => none
      | first => return (first, rest)

/-- Further targets, each after a comma; a comma may follow the last one. -/
def moreTargets : (fuel : Nat) → List Token → Option (List Expr × List Token)
  | 0, _ => none
  | fuel + 1, ts =>
    match after? "," ts with
    | none => some ([], ts)
    | some rest =>
      if (afterWord? "in" rest).isSome then some ([], rest)
      else do
        let (first, rest) ← target fuel rest
        let (more, rest) ← moreTargets fuel rest
        return (first :: more, rest)

/-- A single target, which may stand for several items. -/
def target : (fuel : Nat) → List Token → Option (Expr × List Token)
  | 0, _ => none
  | fuel + 1, ts =>
    match after? "*" ts with
    | some rest => do
      let (value, rest) ← primary fuel rest
      return (.node .star [value], rest)
    | none => primary fuel ts

/-- An entry of a table: whether it is a spread table, and its parts. -/
def tableEntry : (fuel : Nat) → List Token → Option ((Bool × List Expr) × List Token)
  | 0, _ => none
  | fuel + 1, ts =>
    match after? "**" ts with
    | some rest => do
      let (value, rest) ← binary fuel binaryLevels rest
      return ((true, [value]), rest)
    | none => do
      let (key, rest) ← expression fuel ts
      let rest ← after? ":" rest
      let (value, rest) ← expression fuel rest
      return ((false, [key, value]), rest)

/-- The entries of a table up to the closing brace, after the first one. -/
def tableEntries : (fuel : Nat) → List Token → Option (List (Bool × List Expr) × List Token)
  | 0, _ => none
  | fuel + 1, ts =>
    match after? "\x7d" ts with
    | some rest => some ([], rest)
    | none => do
      let rest ← after? "," ts
      match after? "\x7d" rest with
      | some rest => return ([], rest)
      | none => do
        let (first, rest) ← tableEntry fuel rest
        let (more, rest) ← tableEntries fuel rest
        return (first :: more, rest)

/-- A table after its opening brace. -/
def table : (fuel : Nat) → List Token → Option (Expr × List Token)
  | 0, _ => none
  | fuel + 1, ts => do
    let ((isSpread, parts), rest) ← tableEntry fuel ts
    if beginsClause rest then do
      guard (!isSpread)
      let (clauses, rest) ← clauses fuel rest
      let rest ← after? "\x7d" rest
      return (.comprehension .dict parts clauses, rest)
    else do
      let (more, rest) ← tableEntries fuel rest
      return (.node (.dict (isSpread :: more.map Prod.fst)) (parts ++ more.flatMap Prod.snd), rest)

/-- A set or a table after its opening brace. -/
def braced : (fuel : Nat) → List Token → Option (Expr × List Token)
  | 0, _ => none
  | fuel + 1, ts =>
    match after? "\x7d" ts with
    | some rest => some (.node (.dict []) [], rest)
    | none =>
      if beginsWith "**" ts then table fuel ts
      else
        match item fuel ts with
        | none => none
        | some (first, rest) =>
          if beginsWith ":" rest then table fuel ts
          else collection fuel .set "\x7d" first rest

/-- A list or a set after its first item. -/
def collection : (fuel : Nat) → (form : ComprehensionForm) → (close : String) → (first : Expr) →
    List Token → Option (Expr × List Token)
  | 0, _, _, _, _ => none
  | fuel + 1, form, close, first, ts =>
    if beginsClause ts then
      match first with
      | .node .star _ => none
      | first => do
        let (clauses, rest) ← clauses fuel ts
        let rest ← after? close rest
        return (.comprehension form [first] clauses, rest)
    else do
      let (more, rest) ← match after? close ts with
        | some rest => some ([], rest)
        | none => do
          let rest ← after? "," ts
          items fuel close rest
      return (.node (if form = .set then .set else .list) (first :: more), rest)

/-- A list after its opening bracket. -/
def bracketed : (fuel : Nat) → List Token → Option (Expr × List Token)
  | 0, _ => none
  | fuel + 1, ts =>
    match after? "]" ts with
    | some rest => some (.node .list [], rest)
    | none => do
      let (first, rest) ← item fuel ts
      collection fuel .list "]" first rest

/-- A tuple, or a value in brackets, after the opening bracket. -/
def grouped : (fuel : Nat) → List Token → Option (Expr × List Token)
  | 0, _ => none
  | fuel + 1, ts =>
    match ts with
    | .symbol ")" :: rest => some (.node .tuple [], rest)
    | .word "yield" :: rest => do
      let (value, rest) ← handed fuel rest
      let rest ← after? ")" rest
      return (value, rest)
    | ts => do
      let (first, rest) ← item fuel ts
      let isStar := match first with
        | .node .star _ => true
        | _ => false
      if beginsClause rest then do
        guard (!isStar)
        let (clauses, rest) ← clauses fuel rest
        let rest ← after? ")" rest
        return (.comprehension .stream [first] clauses, rest)
      else
        match after? ")" rest with
        | some rest => if isStar then none else return (first, rest)
        | none => do
          let rest ← after? "," rest
          let (more, rest) ← items fuel ")" rest
          return (.node .tuple (first :: more), rest)

/-- What a function hands over, up to the closing bracket, which stays. -/
def handed : (fuel : Nat) → List Token → Option (Expr × List Token)
  | 0, _ => none
  | fuel + 1, ts =>
    match ts with
    | .symbol ")" :: _ => some (.hand false (.constant .nothing), ts)
    | .word "from" :: rest => do
      let (value, rest) ← expression fuel rest
      return (.hand true value, rest)
    | ts => do
      let (first, rest) ← starItem fuel ts
      let (value, rest) ← sequence fuel first rest
      return (.hand false value, rest)

/-- A value without a name, or a starred one that stands for its items. -/
def starItem : (fuel : Nat) → List Token → Option (Expr × List Token)
  | 0, _ => none
  | fuel + 1, ts => if beginsWith "*" ts then item fuel ts else expression fuel ts

/-- A first value, or with those that follow it after commas a tuple. -/
def sequence : (fuel : Nat) → (first : Expr) → List Token → Option (Expr × List Token)
  | 0, _, _ => none
  | fuel + 1, first, ts =>
    if beginsWith "," ts then do
      let (more, rest) ← moreItems fuel ts
      return (.node .tuple (first :: more), rest)
    else
      match first with
      | .node .star _ => none
      | first => some (first, ts)

/-- Further values, each after a comma; a comma may follow the last one. -/
def moreItems : (fuel : Nat) → List Token → Option (List Expr × List Token)
  | 0, _ => none
  | fuel + 1, ts =>
    match after? "," ts with
    | none => some ([], ts)
    | some rest =>
      match rest with
      | [] | .symbol ")" :: _ | .lineBreak :: _ => some ([], rest)
      | rest => do
        let (first, rest) ← starItem fuel rest
        let (more, rest) ← moreItems fuel rest
        return (first :: more, rest)

/-- A value that no operator takes apart. -/
def atom : (fuel : Nat) → List Token → Option (Expr × List Token)
  | 0, _ => none
  | fuel + 1, ts =>
    match ts with
    | .name name :: rest => some (.name name, rest)
    | .word word :: rest => (constant? word).map fun value => (.constant value, rest)
    | .int n :: rest => some (.constant (.int n), rest)
    | .float x :: rest => some (.constant (.float x), rest)
    | .imaginary x :: rest => some (.constant (.imaginary x), rest)
    | .given place :: rest => some (.given place, rest)
    | .symbol "..." :: rest => some (.constant .ellipsis, rest)
    | .symbol "(" :: rest => grouped fuel rest
    | .symbol "[" :: rest => bracketed fuel rest
    | .symbol "\x7b" :: rest => braced fuel rest
    | .bytes octets :: rest => bytes octets rest
    | .text _ :: _ | .formatted .. :: _ => do
      let (pieces, fields, rest) ← texts fuel ts
      let isPlain := ts.head?.any fun
        | .formatted .. => false
        | _ => true
      match pieces, isPlain with
      | [.literal text], true => return (.constant (.text text), rest)
      | pieces, _ => return (.node (.formatted pieces) fields, rest)
    | _ => none
where
  /-- Bytes that follow one another are one. -/
  bytes (octets : List Nat) : List Token → Option (Expr × List Token)
    | .bytes more :: rest => bytes (octets ++ more) rest
    | .text _ :: _ | .formatted .. :: _ => none
    | rest => some (.constant (.bytes octets), rest)

/-- Texts that follow one another are one. -/
def texts : (fuel : Nat) → List Token → Option (List Piece × List Expr × List Token)
  | 0, _ => none
  | fuel + 1, ts =>
    match ts with
    | .text text :: rest => do
      let (pieces, fields, rest) ← texts fuel rest
      match pieces with
      | .literal more :: pieces => return (.literal (text ++ more) :: pieces, fields, rest)
      | pieces => return (.literal text :: pieces, fields, rest)
    | .formatted isRaw content :: rest => do
      let (pieces, fields, left) ← formatted fuel isRaw 0 content
      guard left.isEmpty
      let (more, moreFields, rest) ← texts fuel rest
      return (pieces ++ more, fields ++ moreFields, rest)
    | .bytes _ :: _ => none
    | rest => some ([], [], rest)

/-- The pieces of a text with expressions, and the values and layouts in it; within a layout, up to
a closing brace. -/
def formatted : (fuel : Nat) → (isRaw : Bool) → (level : Nat) → List Char →
    Option (List Piece × List Expr × List Char)
  | 0, _, _, _ => none
  | fuel + 1, isRaw, level, cs => do
    let (literal, rest) ← literalPart isRaw (level ≠ 0) (cs.length + 1) cs
    let text := Quoted.textOf (← Quoted.content isRaw false literal)
    match rest with
    | '{' :: rest => do
      guard (level < 2)
      let (pieces, fields, rest) ← field fuel isRaw level rest
      let (more, moreFields, rest) ← formatted fuel isRaw level rest
      return (.literal text :: pieces ++ more, fields ++ moreFields, rest)
    | rest => return ([.literal text], [], rest)

/-- An expression in braces after the opening one, and what follows the closing one. -/
def field : (fuel : Nat) → (isRaw : Bool) → (level : Nat) → List Char →
    Option (List Piece × List Expr × List Char)
  | 0, _, _, _ => none
  | fuel + 1, isRaw, level, cs => do
    let (part, rest) ← expressionPart (cs.length + 1) {} cs
    guard (!part.all isAsciiBlank)
    let tokens ← Token.enclosed? part
    let (value, left) ← atom fuel tokens
    guard left.isEmpty
    let (shown, rest) := match rest with
      | '=' :: rest =>
        let blanks := rest.takeWhile isAsciiBlank
        (some (part ++ '=' :: blanks), rest.drop blanks.length)
      | rest => (none, rest)
    let (conversion, rest) ← conversion? rest
    let (layout, rest) ← match rest with
      | ':' :: rest => do
        let (pieces, fields, rest) ← formatted fuel isRaw (level + 1) rest
        some (some (Expr.node (.formatted pieces) fields), rest)
      | rest => some (none, rest)
    match rest with
    | '}' :: rest =>
      let conversion := if shown.isSome && layout.isNone && conversion.isNone then some 'r'
        else conversion
      let lead : List Piece := shown.toList.map fun cs =>
        .literal (Quoted.textOf (cs.map Char.toNat))
      return (lead ++ [.field conversion layout.isSome], value :: layout.toList, rest)
    | _ => none

end

/-! ## Texts -/

/-- Fuel for the depth of a text. -/
def fuelFor (cs : List Char) : Nat := 24 * (cs.length + 2)

/-- Whether a value stands for its items. -/
def isStar : Expr → Bool
  | .node .star _ => true
  | _ => false

/-- The expression that a text is: one, or several with commas between them. -/
def expression? (cs : List Char) : Option Expr := do
  let ts ← Token.list? cs
  let (first, rest) ← expression (fuelFor cs) ts
  let (more, left) ← moreItems (fuelFor cs) rest
  guard (!more.any isStar && left.all (· = .lineBreak))
  return if beginsWith "," rest then .node .tuple (first :: more) else first

/-- The header that a text is: parameters in brackets, perhaps the type hint of what the function
gives, and a colon. -/
def header? (cs : List Char) : Option Header := do
  let ts ← Token.list? cs
  let rest ← after? "(" ts
  let (entries, rest) ← entries (fuelFor cs) true ")" rest
  let parameters ← parametersOf entries
  let rest ← after? ")" rest
  let (result, rest) ← match after? "->" rest with
    | none => some (none, rest)
    | some rest => do
      let (result, rest) ← expression (fuelFor cs) rest
      some (some result, rest)
  let rest ← after? ":" rest
  guard rest.isEmpty
  return ⟨parameters, result⟩

end Grammar

end TypeHint

end CallPlan
