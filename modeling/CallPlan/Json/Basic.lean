import CallPlan.Number.Binary64

/-!
# CallPlan.Json.Basic

JSON values.

* Whole numbers have any size and are kept apart from double-precision ones: `1` and `1.0` are
  different values.
* An object keeps its members in order. `Members.insert` writes a key: a present key keeps its place
  and takes the new value, an absent one goes to the end. Documents are read through
  `Members.ofList`, so the keys of a document that was read are distinct.
-/

namespace CallPlan

/-- A JSON number: a whole number of any size, or a double-precision one. -/
inductive Number where
  | int (value : Int)
  | float (value : Binary64)
  deriving DecidableEq, Inhabited

/-- A JSON value. -/
inductive Json where
  | null
  | bool (value : Bool)
  | num (value : Number)
  | str (text : String)
  | arr (items : List Json)
  | obj (members : List (String × Json))
  deriving Inhabited

/-- The members of an object, in order. -/
abbrev Members := List (String × Json)

/-! ## Equality -/

namespace Json

mutual

/-- Decides whether two values are the same. -/
def decEq : (a b : Json) → Decidable (a = b)
  | .null, .null => isTrue rfl
  | .bool a, .bool b =>
    if h : a = b then isTrue (h ▸ rfl) else isFalse (fun e => h (Json.bool.inj e))
  | .num a, .num b =>
    if h : a = b then isTrue (h ▸ rfl) else isFalse (fun e => h (Json.num.inj e))
  | .str a, .str b =>
    if h : a = b then isTrue (h ▸ rfl) else isFalse (fun e => h (Json.str.inj e))
  | .arr a, .arr b =>
    match itemsDecEq a b with
    | isTrue h => isTrue (h ▸ rfl)
    | isFalse h => isFalse (fun e => h (Json.arr.inj e))
  | .obj a, .obj b =>
    match membersDecEq a b with
    | isTrue h => isTrue (h ▸ rfl)
    | isFalse h => isFalse (fun e => h (Json.obj.inj e))
  | .null, .bool _ | .null, .num _ | .null, .str _ | .null, .arr _ | .null, .obj _
  | .bool _, .null | .bool _, .num _ | .bool _, .str _ | .bool _, .arr _ | .bool _, .obj _
  | .num _, .null | .num _, .bool _ | .num _, .str _ | .num _, .arr _ | .num _, .obj _
  | .str _, .null | .str _, .bool _ | .str _, .num _ | .str _, .arr _ | .str _, .obj _
  | .arr _, .null | .arr _, .bool _ | .arr _, .num _ | .arr _, .str _ | .arr _, .obj _
  | .obj _, .null | .obj _, .bool _ | .obj _, .num _ | .obj _, .str _ | .obj _, .arr _ =>
    isFalse nofun

/-- Decides whether two lists of values are the same. -/
def itemsDecEq : (a b : List Json) → Decidable (a = b)
  | [], [] => isTrue rfl
  | [], _ :: _ | _ :: _, [] => isFalse nofun
  | a :: as, b :: bs =>
    match decEq a b, itemsDecEq as bs with
    | isTrue h, isTrue t => isTrue (h ▸ t ▸ rfl)
    | isFalse h, _ => isFalse (fun e => h (List.cons.inj e).1)
    | _, isFalse t => isFalse (fun e => t (List.cons.inj e).2)

/-- Decides whether two lists of members are the same. -/
def membersDecEq : (a b : List (String × Json)) → Decidable (a = b)
  | [], [] => isTrue rfl
  | [], _ :: _ | _ :: _, [] => isFalse nofun
  | (k, a) :: as, (l, b) :: bs =>
    if hk : k = l then
      match decEq a b, membersDecEq as bs with
      | isTrue h, isTrue t => isTrue (hk ▸ h ▸ t ▸ rfl)
      | isFalse h, _ => isFalse (fun e => h (Prod.mk.inj (List.cons.inj e).1).2)
      | _, isFalse t => isFalse (fun e => t (List.cons.inj e).2)
    else isFalse (fun e => hk (Prod.mk.inj (List.cons.inj e).1).1)

end

instance : DecidableEq Json := decEq

/-- A whole number as a value. -/
def int (value : Int) : Json := .num (.int value)

/-- A double-precision number as a value. -/
def float (value : Binary64) : Json := .num (.float value)

/-- An optional text, absent as null. -/
def ofText? : Option String → Json
  | some text => .str text
  | none => .null

/-- An optional whole number, absent as null. -/
def ofInt? : Option Int → Json
  | some value => .int value
  | none => .null

end Json

/-! ## Members of an object -/

namespace Members

/-- The value under a key. -/
def get? (members : Members) (key : String) : Option Json := List.lookup key members

/-- Whether a key is present. -/
def contains (members : Members) (key : String) : Bool := (get? members key).isSome

/-- Writes a key: in its place if it is present, else at the end. -/
def insert : Members → String → Json → Members
  | [], key, value => [(key, value)]
  | (k, v) :: rest, key, value =>
    if k = key then (k, value) :: rest else (k, v) :: insert rest key value

/-- The members written one after the other, so that a key keeps its first place and its last
value. -/
def ofList (pairs : List (String × Json)) : Members :=
  pairs.foldl (fun members (key, value) => insert members key value) []

/-- The keys, in order. -/
def keys (members : Members) : List String := members.map Prod.fst

@[simp] theorem get?_nil (key : String) : get? [] key = none := rfl

theorem get?_cons (k : String) (v : Json) (rest : Members) (key : String) :
    get? ((k, v) :: rest) key = if key = k then some v else get? rest key := by
  by_cases h : key = k
  · simp [get?, h]
  · have hb : (key == k) = false := by simpa using h
    simp [get?, List.lookup_cons, h, hb]

/-- A written key has the value written; every other key is as before. -/
theorem get?_insert (members : Members) (key : String) (value : Json) (other : String) :
    get? (insert members key value) other =
      if other = key then some value else get? members other := by
  induction members with
  | nil => simp [insert, get?_cons]
  | cons m rest ih =>
      obtain ⟨k, v⟩ := m
      by_cases hk : k = key
      · subst hk
        by_cases ho : other = k <;> simp [insert, get?_cons, ho]
      · by_cases ho : other = k
        · subst ho
          simp [insert, get?_cons, hk]
        · simp [insert, hk, get?_cons, ho, ih]

/-- Writing a key adds it to the keys only if it is new, and then at the end. -/
theorem keys_insert (members : Members) (key : String) (value : Json) :
    keys (insert members key value)
      = if key ∈ keys members then keys members else keys members ++ [key] := by
  induction members with
  | nil => simp [insert, keys]
  | cons m rest ih =>
      obtain ⟨k, v⟩ := m
      by_cases hk : k = key
      · simp [insert, keys, hk]
      · have hk' : ¬ key = k := fun h => hk h.symm
        simp only [keys] at ih ⊢
        simp only [insert, hk, if_false, List.map_cons, ih, List.mem_cons, hk', false_or]
        by_cases hr : key ∈ List.map Prod.fst rest
        · simp only [hr, if_true]
        · simp only [hr, if_false, List.cons_append]

/-- Writing keeps the keys distinct. -/
theorem nodup_keys_insert {members : Members} (h : (keys members).Nodup) (key : String)
    (value : Json) : (keys (insert members key value)).Nodup := by
  rw [keys_insert]
  split
  · exact h
  · rename_i hk
    exact List.nodup_append.2 ⟨h, by simp, fun a ha b hb => by
      simp only [List.mem_singleton] at hb
      subst hb
      exact fun e => hk (e ▸ ha)⟩

end Members

namespace Json

/-- The value under a key, if the value is an object that has it. -/
def get? : Json → String → Option Json
  | .obj members, key => Members.get? members key
  | _, _ => none

/-- Whether a value says nothing: null, false, zero, and a text, a list or an object without
content. -/
def isVoid : Json → Bool
  | .null => true
  | .bool b => !b
  | .num (.int n) => decide (n = 0)
  | .num (.float x) => x.isZero
  | .str s => s.isEmpty
  | .arr items => items.isEmpty
  | .obj members => members.isEmpty

mutual

/-- How many values stand in one another, from a value to the innermost one. -/
def depth : Json → Nat
  | .arr items => itemsDepth items + 1
  | .obj members => membersDepth members + 1
  | _ => 1

/-- The greatest depth of the items of a list. -/
def itemsDepth : List Json → Nat
  | [] => 0
  | item :: items => max (depth item) (itemsDepth items)

/-- The greatest depth of the values of an object. -/
def membersDepth : List (String × Json) → Nat
  | [] => 0
  | (_, value) :: members => max (depth value) (membersDepth members)

end

/-- The greatest depth of a value inside a record that is written. -/
def depthLimit : Nat := 255

/-- What is said of a value that is nested too deep to be written. -/
def tooDeepText : String := "Maximum serialization depth exceeded"

/-- Whether a value inside a record can be written. -/
def isWritable (value : Json) : Bool := decide (value.depth ≤ depthLimit)

end Json

end CallPlan
