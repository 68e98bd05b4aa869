import CallPlan.TypeHint.Expr

/-!
# CallPlan.TypeHint.Value

What a type hint comes to.

* A type hint is an expression, and most of its values are types: classes, classes applied to
  arguments, and the forms that make a type of others. But any other value of the expression
  language may come out, so all of them are values here.
* What can change, or is told apart from others like it, is an object: a value refers to it by its
  address, and a store holds it.
* A fault says of which class an exception is, and what it says.
-/

namespace CallPlan

namespace TypeHint

/-! ## Faults -/

/-- Why an expression has no value: the class of the exception, and what it says. -/
structure Fault where
  kind : String
  message : String
  deriving DecidableEq, Inhabited

namespace Fault

/-- Nothing goes by a name. -/
def unknown (name : String) : Fault := ⟨"NameError", "name '" ++ name ++ "' is not defined"⟩

/-- A name of a function has no value yet. -/
def unbound : Fault := ⟨"UnboundLocalError", "no value yet"⟩

/-- A text is not written like an expression. -/
def malformed : Fault := ⟨"SyntaxError", "invalid expression"⟩

/-- A value is used as what it is not: above all, as a type. -/
def unsuited : Fault := ⟨"TypeError", "unsuitable value"⟩

/-- A value has no attribute of the name asked for. -/
def noAttribute : Fault := ⟨"AttributeError", "no such attribute"⟩

/-- A list has no item at the position asked for. -/
def noPosition : Fault := ⟨"IndexError", "no such position"⟩

/-- A table has no entry under the key asked for. -/
def noKey : Fault := ⟨"KeyError", "no such key"⟩

/-- A value lies outside of what is possible. -/
def badValue (message : String) : Fault := ⟨"ValueError", message⟩

def divisionByZero : Fault := ⟨"ZeroDivisionError", "division by zero"⟩

/-- A number is too large. -/
def beyondRange : Fault := ⟨"OverflowError", "too large"⟩

/-- Functions call one another too deeply. -/
def tooDeep : Fault := ⟨"RecursionError", "too deep"⟩

/-- There is no next item. -/
def exhausted : Fault := ⟨"StopIteration", ""⟩

/-- A function stops because it hands over an item. -/
def handing : Fault := ⟨"", "an item is handed over"⟩

/-- Something is not in the state that is asked for. -/
def badState (message : String) : Fault := ⟨"RuntimeError", message⟩

end Fault

/-! ## Values -/

/-- What a variable of a generic type stands for. -/
inductive VariableKind where
  | type
  | parameters
  | types
  deriving DecidableEq, Inhabited

/-- What of a table a view of it shows. -/
inductive ViewKind where
  | keys
  | values
  | entries
  /-- The table itself, which cannot be changed through the view. -/
  | whole
  deriving DecidableEq, Inhabited

/-- A value of the expression language. -/
inductive Value where
  | nothing
  | ellipsis
  | notImplemented
  | bool (value : Bool)
  | int (value : Int)
  | float (value : Binary64)
  | complex (real imaginary : Binary64)
  | text (content : String)
  | bytes (octets : List Nat)
  | tuple (items : List Value)
  | frozenSet (items : List Value)
  | range (start stop step : Int)
  | slice (start stop step : Value)
  | module (name : String)
  /-- A function that is there from the start. -/
  | function (name : String)
  /-- What a class holds under a name. -/
  | member (type name : String)
  /-- What a class holds under a name, for one of its values. -/
  | method (owner : Value) (name : String)
  /-- A class that is there from the start. -/
  | type (name : String)
  /-- A class under a name that takes types as arguments. -/
  | alias (name : String)
  /-- A form that makes a type of others. -/
  | form (name : String)
  /-- A variable of generic types, with what it is bound by. -/
  | variable (kind : VariableKind) (number : Nat) (name : String) (fields : List (String × Value))
  /-- A type that is another one under its own name. -/
  | newType (number : Nat) (name : String) (base : Value)
  /-- A text that stands for the type it names; `asForm` says whether it may also name one of the
  forms that mark a field. -/
  | forward (text : String) (asForm : Bool)
  /-- A class with arguments; `isUnpacked` says that it stands for its items. -/
  | applied (origin : Value) (parts : List Value) (isUnpacked : Bool)
  /-- A form with arguments, or a class under a name that takes types. -/
  | generic (origin : String) (parts : List Value)
  /-- Classes of which one is taken. -/
  | choice (parts : List Value)
  | view (kind : ViewKind) (address : Nat)
  /-- An object. -/
  | reference (address : Nat)
  deriving Inhabited

/-- The variables that an expression sees: the frames of the functions around it, the innermost
first. -/
abbrev Scope := List Nat

/-- The arguments of a call. -/
structure Arguments where
  values : List Value
  named : List (String × Value) := []
  deriving Inhabited

/-! ## Objects -/

/-- A function of an expression. -/
structure Closure where
  formals : List Formal
  defaults : List (String × Value)
  body : Expr
  scope : Scope
  /-- The names of its own. -/
  own : List String
  /-- Whether it hands over items one by one. -/
  isStream : Bool
  deriving Inhabited

/-- What gives items one after the other. -/
inductive Stream where
  /-- Items that are known. -/
  | items (rest : List Value)
  /-- The items of a list from a position on. -/
  | positions (address position : Nat)
  /-- The items from the end of a list back. -/
  | backwards (address : Nat) (position : Int)
  | numbers (next stop step : Int)
  /-- What a function makes of the items of some sources. -/
  | mapped (function : Value) (sources : List Value)
  /-- The items of a source that pass a test. -/
  | filtered (test source : Value)
  /-- Items of several sources side by side; `isStrict` says that they must end together. -/
  | zipped (sources : List Value) (isStrict : Bool)
  /-- Items with their numbers. -/
  | numbered (next : Int) (source : Value)
  /-- What a function gives until it gives a certain value. -/
  | calls (function last : Value)
  /-- The items of a value that gives them by position. -/
  | indexed (owner : Value) (position : Int)
  /-- The values of a comprehension: for each open loop, the innermost first, its source, its
  target, and the clauses within it; `isBegun` says that it has given a value. -/
  | comprehension (scope : Scope) (values : List Expr) (loops : List (Value × Expr × List Clause))
    (isBegun : Bool)
  /-- What a function hands over: what it was sent so far. -/
  | handed (scope : Scope) (own : List (String × Option Value)) (body : Expr) (sent : List Value)
  /-- Something that waits. -/
  | awaited
  deriving Inhabited

/-- What can change, or is told apart from others like it. -/
inductive Object where
  | list (items : List Value)
  | table (entries : List (Value × Value))
  | set (items : List Value)
  | octets (octets : List Nat)
  /-- The variables of a function, or of a comprehension. -/
  | frame (isComprehension : Bool) (places : List (String × Option Value))
  | closure (closure : Closure)
  /-- Items one after the other, under the class that they are of. -/
  | stream (type : String) (stream : Stream)
  /-- A class: its name, its bases, and what it holds. -/
  | type (name : String) (bases : List Value) (fields : List (String × Value))
  /-- A value of a class: what it holds, and the plain value that it is. -/
  | record (type : Value) (fields : List (String × Value)) (plain : Value)
  deriving Inhabited

/-! ## Stores -/

/-- The objects that there are, and how many variables and types were made. -/
structure Store where
  objects : Array Object
  made : Nat := 0
  /-- What a function that hands over items is sent in turn. -/
  replies : List Value := []
  /-- The item that was handed over. -/
  handed : Option Value := none
  deriving Inhabited

/-- A step of an evaluation. -/
abbrev Action := EStateM Fault Store

namespace Store

/-- The object at an address. -/
def get? (store : Store) (address : Nat) : Option Object := store.objects[address]?

/-- A store with an object in the place of another. -/
def put (store : Store) (address : Nat) (object : Object) : Store :=
  { store with objects := store.objects.setIfInBounds address object }

/-- What was put at an address is found there. -/
theorem get?_put (store : Store) (address : Nat) (object : Object)
    (h : address < store.objects.size) : (store.put address object).get? address = some object := by
  simp [get?, put, h]

/-- What stands at other addresses stays. -/
theorem get?_put_of_ne (store : Store) {address other : Nat} (object : Object)
    (h : address ≠ other) : (store.put address object).get? other = store.get? other := by
  simp [get?, put, h]

end Store

/-- The address of the names that everything in a type hint sees, and that it may give. -/
def globalAddress : Nat := 0

/-- The address of the names that are there without being given. -/
def builtinAddress : Nat := 1

/-- The address of the modules. -/
def moduleAddress : Nat := 2

/-- The address of lists that are of no account. -/
def scrapAddress : Nat := 3

/-- A new object. -/
def allocate (object : Object) : Action Value :=
  modifyGet fun store =>
    (.reference store.objects.size, { store with objects := store.objects.push object })

/-- The object at an address. -/
def read (address : Nat) : Action Object := do
  match (← get).get? address with
  | some object => return object
  | none => throw .unsuited

/-- Puts an object in the place of another. -/
def write (address : Nat) (object : Object) : Action Unit := modify (·.put address object)

/-- A number that no other has. -/
def freshNumber : Action Nat :=
  modifyGet fun store => (store.made, { store with made := store.made + 1 })

/-- What comes of an action, or none if it fails with a fault of a kind. -/
def attempt {α : Type} (kinds : List String) (action : Action α) : Action (Option α) :=
  tryCatch (some <$> action) fun fault =>
    if kinds.contains fault.kind then pure none else throw fault

namespace Value

/-- A new list. -/
def list (items : List Value) : Action Value := allocate (.list items)

/-- A new table. -/
def table (entries : List (Value × Value)) : Action Value := allocate (.table entries)

/-- A new stream of items that are known. -/
def stream (type : String) (items : List Value) : Action Value :=
  allocate (.stream type (.items items))

/-- A new value of a class. -/
def record (type : String) (fields : List (String × Value)) (plain : Value) : Action Value :=
  allocate (.record (.type type) fields plain)

/-- The whole number that a value is; true and false are one and zero. -/
def int? : Value → Option Int
  | .int n => some n
  | .bool b => some (if b then 1 else 0)
  | _ => none

/-- The values between which there are commas: those of a tuple, or one alone. -/
def arguments : Value → List Value
  | .tuple parts => parts
  | value => [value]

/-- Whether a value is the one that says nothing. -/
def isNothing : Value → Bool
  | .nothing => true
  | _ => false

/-- The class of the value that says nothing. -/
def noneType : Value := .type "NoneType"

/-- A constant as a value. -/
def ofConstant : Constant → Value
  | .nothing => .nothing
  | .ellipsis => .ellipsis
  | .bool b => .bool b
  | .int n => .int n
  | .float x => .float x
  | .imaginary x => .complex .zero x
  | .text s => .text s
  | .bytes octets => .bytes octets

end Value

end TypeHint

end CallPlan
