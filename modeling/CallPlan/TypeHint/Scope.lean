import CallPlan.TypeHint.Expr

/-!
# CallPlan.TypeHint.Scope

Where names get their values.

* A function has variables of its own: its parameters, and the names that its body gives to values,
  also within comprehensions (`assigned`). The names that a comprehension gives to its items are the
  comprehension's own (`targetNames`).
* `isSound` says whether an expression gives values to names, hands over items, and waits only where
  that is possible.
-/

namespace CallPlan

namespace TypeHint

namespace Expr

/-! ## Names that get values -/

mutual

/-- The names that an expression gives to values where it stands. -/
def assigned : Expr → List String
  | .name _ | .constant _ | .given _ => []
  | .both left right | .either left right => assigned left ++ assigned right
  | .choice condition yes no => assigned condition ++ assigned yes ++ assigned no
  | .assign target value => target :: assigned value
  | .node _ parts => assignedIn parts
  | .function _ defaults _ => assignedIn defaults
  | .comprehension _ values clauses => assignedIn values ++ assignedBy clauses
  | .hand _ value | .wait value => assigned value

/-- The names that expressions give to values where they stand. -/
def assignedIn : List Expr → List String
  | [] => []
  | expr :: rest => assigned expr ++ assignedIn rest

/-- The names that clauses give to values, apart from items. -/
def assignedBy : List Clause → List String
  | [] => []
  | .loop _ target source :: rest => assigned target ++ assigned source ++ assignedBy rest
  | .filter condition :: rest => assigned condition ++ assignedBy rest

end

mutual

/-- The names in a target. -/
def targetNames : Expr → List String
  | .name target => [target]
  | .node .tuple parts | .node .list parts | .node .star parts => targetNamesIn parts
  | _ => []

/-- The names in targets. -/
def targetNamesIn : List Expr → List String
  | [] => []
  | expr :: rest => targetNames expr ++ targetNamesIn rest

end

/-- The names that the clauses of a comprehension give to its items. -/
def loopNames (clauses : List Clause) : List String :=
  clauses.flatMap fun
    | .loop _ target _ => targetNames target
    | .filter _ => []

/-! ## Handing over and waiting -/

mutual

/-- Whether the function that an expression belongs to hands over items. -/
def hands : Expr → Bool
  | .name _ | .constant _ | .given _ => false
  | .both left right | .either left right => hands left || hands right
  | .choice condition yes no => hands condition || hands yes || hands no
  | .assign _ value | .wait value => hands value
  | .node _ parts => handsIn parts
  | .function _ defaults _ => handsIn defaults
  | .comprehension _ _ clauses => handsFirst clauses
  | .hand .. => true

/-- Whether some expressions hand over items. -/
def handsIn : List Expr → Bool
  | [] => false
  | expr :: rest => hands expr || handsIn rest

/-- Whether the source of the first clause hands over items. -/
def handsFirst : List Clause → Bool
  | .loop _ _ source :: _ => hands source
  | _ => false

end

mutual

/-- Whether what an expression belongs to waits for something. -/
def waits : Expr → Bool
  | .name _ | .constant _ | .given _ => false
  | .both left right | .either left right => waits left || waits right
  | .choice condition yes no => waits condition || waits yes || waits no
  | .assign _ value | .hand _ value => waits value
  | .node _ parts => waitsIn parts
  | .function _ defaults _ => waitsIn defaults
  | .comprehension form values clauses =>
    waitsFirst clauses || (form ≠ .stream && (waitsIn values || waitsInside true clauses))
  | .wait _ => true

/-- Whether some expressions wait. -/
def waitsIn : List Expr → Bool
  | [] => false
  | expr :: rest => waits expr || waitsIn rest

/-- Whether the source of the first clause waits. -/
def waitsFirst : List Clause → Bool
  | .loop _ _ source :: _ => waits source
  | _ => false

/-- Whether clauses wait; the source of the first one is not theirs. -/
def waitsInside (isFirst : Bool) : List Clause → Bool
  | [] => false
  | .loop isAwaited target source :: rest =>
    isAwaited || waits target || (!isFirst && waits source) || waitsInside false rest
  | .filter condition :: rest => waits condition || waitsInside isFirst rest

end

/-! ## What may stand where -/

/-- What is possible where an expression stands. -/
structure Site where
  mayHand : Bool
  mayWait : Bool
  mayAssign : Bool

/-- Where a type hint stands. -/
def Site.outer : Site := ⟨false, false, true⟩

mutual

/-- Whether an expression does only what is possible where it stands. -/
def isSound (site : Site) : Expr → Bool
  | .name _ | .constant _ | .given _ => true
  | .both left right | .either left right => isSound site left && isSound site right
  | .choice condition yes no =>
    isSound site condition && isSound site yes && isSound site no
  | .assign target value => site.mayAssign && target ≠ "__debug__" && isSound site value
  | .node _ parts => areSound site parts
  | .function _ defaults body =>
    areSound site defaults && isSound ⟨true, false, site.mayAssign⟩ body
  | .comprehension form values clauses =>
    let inner : Site := ⟨false, true, site.mayAssign⟩
    let isWaiting := waitsIn values || waitsInside true clauses
    let own := loopNames clauses
    areSound inner values && firstSound site clauses && areClausesSound inner true clauses &&
      (assignedIn values ++ assignedBy clauses).all (!own.contains ·) &&
      (!isWaiting || form = .stream || site.mayWait)
  | .hand _ value => site.mayHand && isSound site value
  | .wait value => site.mayWait && isSound site value

/-- Whether expressions do only what is possible where they stand. -/
def areSound (site : Site) : List Expr → Bool
  | [] => true
  | expr :: rest => isSound site expr && areSound site rest

/-- Whether the source of the first clause does only what is possible around a comprehension. -/
def firstSound (site : Site) : List Clause → Bool
  | .loop _ _ source :: _ => isSound { site with mayAssign := false } source
  | _ => true

/-- Whether clauses do only what is possible in a comprehension; no source gives values to names. -/
def areClausesSound (site : Site) (isFirst : Bool) : List Clause → Bool
  | [] => true
  | .loop _ target source :: rest =>
    isSound site target && (isFirst || isSound { site with mayAssign := false } source) &&
      areClausesSound site false rest
  | .filter condition :: rest => isSound site condition && areClausesSound site isFirst rest

end

end Expr

/-- Whether the expressions of a header do only what is possible in one. -/
def Header.isSound (header : Header) : Bool :=
  Expr.areSound .outer (header.parameters.flatMap fun p => p.hint.toList ++ p.default.toList) &&
    Expr.areSound .outer header.result.toList

end TypeHint

end CallPlan
