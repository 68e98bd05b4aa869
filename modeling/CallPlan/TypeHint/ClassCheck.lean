import CallPlan.TypeHint.Attribute

/-!
# CallPlan.TypeHint.ClassCheck

Whether values are of classes, and classes below others.

* A class may stand for others: a tuple for each of its items, a choice for each of its types. A
  class with arguments stands for none.
-/

namespace CallPlan

namespace TypeHint

namespace ClassCheck

/-- Whether a class is another one, or counts as it. -/
def isBelow (store : Store) (type other : Value) : Bool :=
  match other with
  | .type name =>
    (store.line type).any (Store.lineOf.isSame other) ||
      (store.line type).any (fun
        | .type base => Class.isBelow base name
        | _ => false) ||
      (List.lookup name Class.byMembers).any fun members =>
        members.all fun member =>
          (store.madeMember? type member).isSome || Class.holds (store.baseName type) member
  | other => (store.line type).any (Store.lineOf.isSame other)

/-- The forms that stand for no class. -/
def closedTypes : List String := ["Any"]

/-- Whether a class counts as what another value stands for; a step of fuel for each level of it. -/
def checkIn (store : Store) (isValue : Bool) : (fuel : Nat) → (type other : Value) →
    Except Fault Bool
  | 0, _, _ => .error .tooDeep
  | fuel + 1, type, other =>
    let any (others : List Value) : Except Fault Bool :=
      others.foldlM (fun found other =>
        if found then .ok true else checkIn store isValue fuel type other) false
    match other with
    | .type name => if isValue && closedTypes.contains name then .error .unsuited
      else .ok (isBelow store type other)
    | .tuple others | .choice others => any others
    | .generic "Union" others => any others
    | .alias name =>
      match type with
      | .applied .. => .error .unsuited
      | type => .ok (isBelow store type (.type (Names.aliasOrigin name)))
    | other =>
      if TypeForm.isClass store other then .ok (isBelow store type other) else .error .unsuited

/-- Whether a value is of a class, or of one of several. -/
def isInstance (store : Store) (value other : Value) : Except Fault Bool :=
  checkIn store true Store.depthLimit (store.typeOf value) other

/-- Whether a class is below another one, or below one of several. -/
def isSubclass (store : Store) (type other : Value) : Except Fault Bool :=
  let type := match type with
    | .alias name => .type (Names.aliasOrigin name)
    | type => type
  if TypeForm.isClass store type then checkIn store false Store.depthLimit type other
  else .error .unsuited

end ClassCheck

end TypeHint

end CallPlan
