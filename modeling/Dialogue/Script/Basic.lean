import Dialogue.Script.Step

/-!
# Scripts

A script is a dialogue of at least one step, with arguments that the program is started with if the
script gives any. `Script.ofEntries` builds one from a list in which the arguments are an entry of
their own, and says what is wrong with a list that is no script.
-/

set_option autoImplicit false
set_option relaxedAutoImplicit false

namespace Dialogue

/-! ### What is wrong with a script -/

/-- Why a text or a list of entries is not a script. -/
inductive ScriptError where
  /-- A line is of no known form. -/
  | malformed (line : Nat) (text : Text)
  /-- Arguments stand behind something else. -/
  | misplacedArguments (line : Nat)
  /-- There is no step. -/
  | empty
  /-- The file cannot be read, for the reason given. -/
  | unreadable (reason : Text)
  deriving Repr, DecidableEq, Inhabited

/-- The wording of an error. -/
def ScriptError.message : ScriptError → Text
  | malformed line text =>
    "line ".toList ++ Text.ofNat line ++ ": unrecognized line '".toList ++ text ++ ['\'']
  | misplacedArguments line =>
    "line ".toList ++ Text.ofNat line
      ++ ": command-line arguments are only allowed on the first line".toList
  | empty => "script has no input/output lines".toList
  | unreadable reason => "IO error: ".toList ++ reason

/-! ### Scripts -/

/-- A dialogue, and the arguments that the program is started with. -/
structure Script where
  /-- The arguments, if the script gives any. -/
  arguments : Option (List Text)
  /-- The steps in their order. -/
  steps : List Step
  steps_ne_nil : steps ≠ []
  deriving DecidableEq

/-- An entry of a list that may be a script. -/
inductive Entry where
  | arguments (values : List Text)
  | step (step : Step)
  deriving Repr, DecidableEq, Inhabited

namespace Entry

/-- Whether an entry is a step. -/
def isStep : Entry → Bool
  | arguments _ => false
  | step _ => true

/-- The step of an entry that is one. -/
def step? : Entry → Option Step
  | arguments _ => none
  | step s => some s

end Entry

namespace Script

/-- The steps of a list of entries, without its arguments. -/
def stepsOf (entries : List Entry) : List Step :=
  entries.filterMap Entry.step?

/-- The arguments of a list of entries that begins with some. -/
def argumentsOf : List Entry → Option (List Text)
  | .arguments values :: _ => some values
  | _ => none

/-- The script that a list of entries makes: arguments stand first if anywhere, and at least one
entry is a step. -/
def ofEntries (entries : List Entry) : Except ScriptError Script :=
  match (entries.drop 1).findIdx? (fun entry ↦ !entry.isStep) with
  | some position => .error (.misplacedArguments (position + 2))
  | none =>
    if h : stepsOf entries = [] then .error .empty
    else .ok ⟨argumentsOf entries, stepsOf entries, h⟩

/-- The entries of a script, its arguments first. -/
def entries (script : Script) : List Entry :=
  (script.arguments.map Entry.arguments).toList ++ script.steps.map Entry.step

/-- The arguments of a script; none are given if the script says nothing about them. -/
def argumentList (script : Script) : List Text :=
  script.arguments.getD []

/-- How many lines are typed in a script. -/
def inputCount (script : Script) : Nat :=
  script.steps.countP Step.isInput

/-- How many outputs a script expects. -/
def outputCount (script : Script) : Nat :=
  script.steps.countP Step.isExpect

theorem stepsOf_map_step (steps : List Step) : stepsOf (steps.map Entry.step) = steps := by
  induction steps with
  | nil => rfl
  | cons s rest ih => simpa [stepsOf, Entry.step?] using ih

end Script

end Dialogue
