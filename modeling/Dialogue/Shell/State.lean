import Dialogue.Files.Path
import Dialogue.Files.Tree
import Dialogue.Shell.Command

/-!
# The state of a shell

While it runs, a shell knows its variables, its arguments, its functions and the outcome of the last
command, its options and its working directory. Of its parameters (`State.parameter?`) some are
variables and some are parts of the state.
-/

set_option autoImplicit false
set_option relaxedAutoImplicit false

namespace Dialogue.Shell

/-- A variable. It may be there without a value. -/
structure Variable where
  value : Option Text
  /-- Whether the commands that are run get it. -/
  isExported : Bool
  /-- Whether it keeps its value for good. -/
  isFixed : Bool
  deriving Repr, DecidableEq, Inhabited

/-- A command in the background. -/
structure Background where
  /-- The number by which the shell knows it. -/
  place : Nat
  /-- The number of its process. -/
  process : Nat
  /-- How many commands it joins by pipes. -/
  parts : Nat
  /-- Whether it has been waited for. -/
  isKnown : Bool
  deriving Repr, DecidableEq, Inhabited

/-- The state of a shell. -/
structure State where
  /-- The name by which the shell was called. -/
  name : Text
  arguments : List Text
  /-- The variables by their names. -/
  known : List (Text × Variable)
  functions : List (Text × Command)
  /-- The words that stand for other texts. -/
  aliases : List (Text × Text)
  /-- The letters of the options that are set. -/
  options : List Char
  /-- The outcome of the last command; zero is success. -/
  status : Nat
  /-- The outcome of the last command that was expanded, or zero. -/
  expanded : Nat
  directory : Location
  /-- What is done when a signal comes; nothing is done about it if the text is empty. -/
  traps : List (Text × Text)
  /-- How many loops of the function are running. -/
  loops : Nat
  /-- For each function that is running, what variables were before it made them its own. -/
  locals : List (List (Text × Option Variable))
  /-- The number of the process of the shell. -/
  number : Nat
  /-- The process that was put into the background last. -/
  background : Option Nat
  /-- The commands in the background, the last one first. -/
  children : List Background
  /-- The line of the command that is running. -/
  line : Nat
  /-- The command of the shell that the running one is part of, if there is one. -/
  within : Text
  /-- How many letters of the argument at hand have been taken for options. -/
  optionLetters : Nat
  /-- The permissions that new files do not get. -/
  mask : Nat
  deriving Inhabited

namespace State

/-- The state after a command with an outcome. -/
def ended (state : State) (status : Nat) : State :=
  { state with status := status }

/-! ### Variables -/

/-- The value of a variable. -/
def value? (state : State) (name : Text) : Option Text :=
  (state.known.lookup name).bind Variable.value

/-- Whether a variable keeps its value for good. -/
def isFixed (state : State) (name : Text) : Bool :=
  (state.known.lookup name).any Variable.isFixed

/-- The variables with one of them changed. -/
def replaceVariable (name : Text) (new : Variable) :
    List (Text × Variable) → List (Text × Variable)
  | [] => [(name, new)]
  | (other, old) :: rest =>
    if other = name then (name, new) :: rest else (other, old) :: replaceVariable name new rest

/-- The state with a variable as it is given. -/
def put (state : State) (name : Text) (new : Variable) : State :=
  { state with known := replaceVariable name new state.known }

/-- Whether an option is set. -/
def has (state : State) (option : Char) : Bool :=
  state.options.contains option

/-- The state with a value for a variable, whether it is fixed or not. -/
def set (state : State) (name value : Text) : State :=
  let old := (state.known.lookup name).getD ⟨none, false, false⟩
  let state := state.put name
    { old with value := some value, isExported := old.isExported || state.has 'a' }
  if name = "OPTIND".toList then { state with optionLetters := 0 } else state

/-- The state without a variable. -/
def unset (state : State) (name : Text) : State :=
  { state with known := state.known.filter fun (other, _) ↦ other ≠ name }

/-- The state with a variable as it was. -/
def restore (state : State) (name : Text) (old : Option Variable) : State :=
  match old with
  | some known => state.put name known
  | none => state.unset name

/-- The variables that commands get. -/
def environment (state : State) : List (Text × Text) :=
  state.known.filterMap fun (name, known) ↦
    if known.isExported then known.value.map fun value ↦ (name, value) else none

/-! ### Parameters -/

/-- The characters at which fields are split. -/
def separators (state : State) : Text :=
  (state.value? "IFS".toList).getD [' ', '\t', '\n']

/-- The letters of options in the order in which they are shown. -/
def optionOrder : List Char := "pubaCEVvxsnmiIfe".toList

/-- The value of a parameter, if it has one. -/
def parameter? (state : State) (name : Text) : Option Text :=
  match name with
  | ['#'] => some (Text.ofNat state.arguments.length)
  | ['?'] => some (Text.ofNat state.status)
  | ['$'] => some (Text.ofNat state.number)
  | ['-'] => some (optionOrder.filter state.has)
  | ['!'] => state.background.map Text.ofNat
  | ['@'] | ['*'] => some (Text.joinWith (state.separators.take 1) state.arguments)
  | _ =>
    match Text.toNat? 10 name with
    | some 0 => some state.name
    | some n => state.arguments[n - 1]?
    | none => state.value? name

end State

end Dialogue.Shell
