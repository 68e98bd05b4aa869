import CallPlan.Number.Binary64

/-!
# CallPlan.TypeHint.Expr

The expressions that type hints are written in.

* An operation that needs the values of all its parts is a node, and its head says which operation
  it is. What leaves parts aside, gives values to names, or has variables of its own has a
  constructor of its own.
* A header is the list of parameters of a tool, each with its type hint and its default.
-/

namespace CallPlan

/-- How a parameter takes arguments. -/
inductive ParameterKind where
  /-- An argument by position alone. -/
  | positional
  /-- An argument by position or under its name. -/
  | ordinary
  /-- An argument under its name alone. -/
  | named
  /-- All further arguments by position. -/
  | rest
  /-- All further arguments under names. -/
  | extras
  deriving DecidableEq, Inhabited

namespace TypeHint

/-- A value that is written out. -/
inductive Constant where
  | nothing
  | ellipsis
  | bool (value : Bool)
  | int (value : Nat)
  | float (value : Binary64)
  | imaginary (value : Binary64)
  | text (content : String)
  | bytes (octets : List Nat)
  deriving DecidableEq, Inhabited

/-- How an argument of a call is given. -/
inductive ArgumentForm where
  | position
  /-- All items of a value, by position. -/
  | spread
  | name (name : String)
  /-- All entries of a table, under their keys. -/
  | spreadNames
  deriving DecidableEq, Inhabited

/-- A piece of a text that is put together. -/
inductive Piece where
  | literal (text : String)
  /-- A value: as which text it is shown, and whether a layout for it follows. -/
  | field (conversion : Option Char) (hasLayout : Bool)
  deriving DecidableEq, Inhabited

/-- An operation on the values of all parts. -/
inductive Head where
  /-- The attribute of an owner. -/
  | attribute (name : String)
  /-- What an owner gives for an index. -/
  | item
  /-- A lower bound, an upper bound and a step. -/
  | slice
  /-- A call: the callee and the arguments, in the order in which they are written. -/
  | call (arguments : List ArgumentForm)
  | tuple
  | list
  | set
  /-- Keys and values in turn; where an entry is a spread table, its value alone. -/
  | dict (isSpread : List Bool)
  /-- A value that stands for its items. -/
  | star
  | unary (operator : String)
  | binary (operator : String)
  | compare (operators : List String)
  | formatted (pieces : List Piece)
  deriving DecidableEq, Inhabited

/-- A parameter of a function that is written as an expression. -/
structure Formal where
  name : String
  kind : ParameterKind
  hasDefault : Bool
  deriving DecidableEq, Inhabited

/-- What a comprehension makes of its items. -/
inductive ComprehensionForm where
  | list
  | set
  | dict
  /-- The items one after the other, each when it is asked for. -/
  | stream
  deriving DecidableEq, Inhabited

mutual

/-- An expression. -/
inductive Expr where
  | name (name : String)
  | constant (value : Constant)
  /-- The default that a tool was declared with, by the place of its parameter. -/
  | given (place : Nat)
  | both (left right : Expr)
  | either (left right : Expr)
  | choice (condition yes no : Expr)
  /-- A value that also goes by a name from then on. -/
  | assign (name : String) (value : Expr)
  | node (head : Head) (parts : List Expr)
  /-- A function: its parameters, their defaults, and what it gives. -/
  | function (formals : List Formal) (defaults : List Expr) (body : Expr)
  /-- Something made of values for each item of some sources; a table has a key and a value. -/
  | comprehension (form : ComprehensionForm) (values : List Expr) (clauses : List Clause)
  /-- Hands a value over to whoever asks a function for its next item; `isAll` says that it is all
  items of the value. -/
  | hand (isAll : Bool) (value : Expr)
  /-- The outcome of something that runs beside. -/
  | wait (value : Expr)

/-- A clause of a comprehension. -/
inductive Clause where
  | loop (isAwaited : Bool) (target source : Expr)
  | filter (condition : Expr)

end

instance : Inhabited Expr := ⟨.constant .nothing⟩

instance : Inhabited Clause := ⟨.filter (.constant .nothing)⟩

/-- A parameter as it is written in the header of a function. -/
structure HeaderParameter where
  name : String
  kind : ParameterKind
  hint : Option Expr
  default : Option Expr
  deriving Inhabited

/-- The header of a function: its parameters and the type hint of what it gives. -/
structure Header where
  parameters : List HeaderParameter
  result : Option Expr
  deriving Inhabited

end TypeHint

end CallPlan
