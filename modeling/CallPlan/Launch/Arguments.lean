import CallPlan.Text.LowerCase

/-!
# CallPlan.Launch.Arguments

The arguments of the command line.

* Two options take a value, as the next argument or after an equals sign: `--mode` and
  `--log-level`. `--help` or `-h` asks for help. A long option may be cut short as long as it stays
  unambiguous.
* Values are read without regard to case. Of an option given twice the last value counts. Two dashes
  after an equals sign leave the value out.
* Arguments are taken in order, and what comes first decides: an unusable value, or the wish for
  help. Arguments that belong to no option are refused at the end. After two dashes alone no
  argument is an option.
-/

namespace CallPlan

/-- How the program runs. -/
inductive Mode where
  /-- The service alone. -/
  | api
  /-- The service, and the shell in the foreground. -/
  | cli
  deriving DecidableEq, Inhabited

/-- What an option is given: nothing, a value, or the lack of one. -/
inductive Choice (α : Type) where
  | open
  | of (value : α)
  | left
  deriving DecidableEq, Inhabited

/-- What the arguments ask for. -/
structure Options where
  mode : Choice Mode
  logLevel : Choice String
  deriving DecidableEq, Inhabited

/-- Why the program does not run. -/
inductive ArgumentEnd where
  /-- Help was asked for. -/
  | help
  | refused
  deriving DecidableEq, Inhabited

/-- The exit status of a program that does not run. -/
def ArgumentEnd.exitCode : ArgumentEnd → Nat
  | .help => 0
  | .refused => 2

namespace Arguments

/-- An option of the command line. -/
inductive Flag where
  | help
  | mode
  | logLevel
  deriving DecidableEq, Inhabited

/-- The long names of the options, without dashes. -/
def names : List (List Char × Flag) :=
  [("help".toList, .help), ("mode".toList, .mode), ("log-level".toList, .logLevel)]

/-- An argument by itself. -/
inductive Word where
  /-- An option, with the value that stands in the same argument. -/
  | flag (flag : Flag) (value : Option String)
  | plain (text : String)
  /-- A long option that is cut too short. -/
  | ambiguous
  deriving DecidableEq, Inhabited

/-- A long option, given what follows its dashes. -/
def longFlag (text : String) (cs : List Char) : Word :=
  let name := cs.takeWhile (· ≠ '=')
  let value := match cs.dropWhile (· ≠ '=') with
    | [] => none
    | _ :: value => some (String.ofList value)
  match names.filter fun (full, _) => name.isPrefixOf full with
  | [] => .plain text
  | [(_, flag)] => .flag flag value
  | _ => .ambiguous

/-- The short wish for help, given what follows its letter. More letters of short options may
follow, after an equals sign or not, and the only one is this one; anything else is a value, which
the option does not take. -/
def shortHelp (cs : List Char) : Word :=
  let letters := match cs with
    | '=' :: rest => rest
    | _ => cs
  if cs.isEmpty || (!letters.isEmpty && letters.all (· = 'h')) then .flag .help none
  else .flag .help (some (String.ofList letters))

/-- What an argument is by itself. -/
def word (text : String) : Word :=
  match text.toList with
  | '-' :: '-' :: rest => longFlag text rest
  | '-' :: 'h' :: rest => shortHelp rest
  | _ => .plain text

/-- The arguments one by one; after two dashes alone all of them are plain. -/
def words : List String → List Word
  | [] => []
  | text :: rest =>
    if text = "--" then (text :: rest).map .plain else word text :: words rest

/-- The mode that a value names. -/
def mode? (value : String) : Option Mode :=
  let value := Text.lower value
  if value = "api" then some .api else if value = "cli" then some .cli else none

/-- The log levels that may be given. -/
def logLevels : List String := ["debug", "info", "warning", "error", "critical"]

/-- Options with a value read. -/
def set? (options : Options) (flag : Flag) (value : String) : Option Options :=
  match flag with
  | .help => none
  | .mode => (mode? value).map fun mode => { options with mode := .of mode }
  | .logLevel =>
    let level := Text.lower value
    if logLevels.contains level then some { options with logLevel := .of level } else none

/-- Options with a value read that stands in the same argument. -/
def setInline? (options : Options) (flag : Flag) (value : String) : Option Options :=
  match flag, value with
  | .mode, "--" => some { options with mode := .left }
  | .logLevel, "--" => some { options with logLevel := .left }
  | flag, value => set? options flag value

/-- Reads the remaining arguments; `stray` says whether some belonged to no option. -/
def run (options : Options) (stray : Bool) : List Word → Except ArgumentEnd Options
  | [] => if stray then .error .refused else .ok options
  | .plain _ :: rest => run options true rest
  | .ambiguous :: _ => .error .refused
  | .flag .help none :: _ => .error .help
  | .flag flag (some value) :: rest =>
    match setInline? options flag value with
    | some options => run options stray rest
    | none => .error .refused
  | .flag flag none :: .plain value :: rest =>
    match set? options flag value with
    | some options => run options stray rest
    | none => .error .refused
  | .flag _ none :: _ => .error .refused

/-- Reads the arguments of the command line. -/
def parse (arguments : List String) : Except ArgumentEnd Options :=
  let words := words arguments
  if words.contains .ambiguous then .error .refused else run ⟨.open, .open⟩ false words

end Arguments

end CallPlan
