import Dialogue.Machine.Builtin.Basic

/-!
# Commands for the flow of control

The commands of the shell that leave a loop, a function or the shell, and those that run a text as
commands: `break`, `continue`, `return`, `exit`, `eval`, and the one that runs a file.
-/

set_option autoImplicit false
set_option relaxedAutoImplicit false

namespace Dialogue.Machine

open Dialogue.Shell

/-- The number that a command is given, if it is given one. -/
def countOf? (words : List Text) : Except Text (Option Nat) :=
  match words with
  | [] => .ok none
  | word :: _ => (count word).map some

/-- Leaves loops, or goes on with the next round of one. -/
def Builtin.leaveLoops (command : String) (goesOn : Bool) : Builtin :=
  fun strict words process machine ↦
    match countOf? words with
    | .error message => (process.wrong strict command message, machine)
    | .ok (some 0) => (process.wrong strict command "Illegal number: 0".toList, machine)
    | .ok wanted =>
      (Process.leaveLoops goesOn (process.ended 0)
        (min (wanted.getD 1) process.state.loops), machine)

/-- Leaves a function or a file of commands. -/
def Builtin.return : Builtin := fun strict words process machine ↦
  match countOf? words with
  | .error message => (process.wrong strict "return" message, machine)
  | .ok status => (process.leaveFunction (status.getD process.state.status), machine)

/-- Leaves the shell. -/
def Builtin.exit : Builtin := fun strict words process machine ↦
  match countOf? words with
  | .error message => (process.wrong strict "exit" message, machine)
  | .ok status => (process.leaveShell (status.getD process.state.status), machine)

/-- Runs its arguments as commands. -/
def Builtin.eval : Builtin := fun _ words process machine ↦
  let text := Text.joinWith [' '] words
  let state := process.state
  ((process.withState { state with within := "eval".toList }).push
    [.script (.start text 1 true state.aliases) .whole false process.tested,
      .endText state.within], machine)

/-- The path of a file of commands: one that is looked for in the search path must be there. -/
def sourcePath? (machine : Machine) (process : Process) (name : Text) : Option Text :=
  let host := machine.hostOf process
  if name.contains '/' then some name
  else (host.searchPath.map fun directory ↦ Text.narrow directory.text ++ '/' :: name).find?
    fun path ↦ host.isFile ⟨Text.widen path⟩

/-- What is said about a file that cannot be read. -/
def openingFlaw (error : FileError) : Text :=
  match error with
  | .notFound | .notADirectory => "No such file".toList
  | _ => error.wording

/-- What is said about a file that cannot be written. -/
def makingFlaw (error : FileError) : Text :=
  match error with
  | .notFound | .notADirectory => "Directory nonexistent".toList
  | _ => error.wording

/-- Runs the commands in a file. -/
def Builtin.source : Builtin :=
  .withOptions "." "" fun _ strict words process machine ↦
    match words with
    | [] => (process.ended 0, machine)
    | name :: _ =>
      match sourcePath? machine process name with
      | none => (process.wrong strict "." (name ++ ": not found".toList), machine)
      | some path =>
        let host := machine.host process.state.directory
        match host.readBytes ⟨Text.widen path⟩ with
        | .error .isADirectory => (process.ended 0, machine)
        | .error error =>
          (process.wrong strict "."
            ("cannot open ".toList ++ path ++ ": ".toList ++ openingFlaw error), machine)
        | .ok bytes =>
          let state := process.state
          ((process.withState { state with within := path }).push
            [.script (.start (Text.ofBytes bytes) 1 true state.aliases) .whole false false,
              .endSource state.within], machine)

end Dialogue.Machine
