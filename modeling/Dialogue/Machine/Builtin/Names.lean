import Dialogue.Machine.Builtin.Basic

/-!
# What a command is

A name may stand for an alias, a word of the language, a function, a command of the shell, or a file
that is looked for in the directories of the search path. `Meaning.ofName` finds out, and `type` and
`command` tell.
-/

set_option autoImplicit false
set_option relaxedAutoImplicit false

namespace Dialogue.Machine

open Dialogue.Shell

/-- The commands of the shell whose errors end it, and whose assignments last. -/
def specialNames : List String :=
  [".", ":", "break", "continue", "eval", "exec", "exit", "export", "local", "readonly", "return",
    "set", "shift", "times", "trap", "unset"]

/-- The other commands of the shell. -/
def regularNames : List String :=
  ["[", "alias", "bg", "cd", "chdir", "command", "echo", "false", "fg", "getopts", "hash", "jobs",
    "kill", "printf", "pwd", "read", "test", "true", "type", "ulimit", "umask", "unalias", "wait"]

/-- What a name stands for. -/
inductive Meaning where
  | word
  | shorthand (text : Text)
  | special
  | function (body : Command)
  | regular
  | file (path : Text)
  | nothing
  deriving Inhabited

/-- Whether there is a file at a path that may be run. -/
def mayRun (host : Host) (path : Path) : Bool :=
  match host.lookup? path with
  | some (.file _ executable) => executable
  | _ => false

/-- The path of the file that a name stands for. -/
def filePath? (host : Host) (name : Text) : Option Text :=
  if name.contains '/' then (if mayRun host ⟨Text.widen name⟩ then some name else none)
  else if name.isEmpty then none
  else
    (host.searchPath.map fun directory ↦ Text.narrow directory.text ++ '/' :: name).find? fun path ↦
      mayRun host ⟨Text.widen path⟩

namespace Meaning

/-- What a name stands for as a command that is run. -/
def ofCommand (machine : Machine) (process : Process) (functionsToo : Bool) (name : Text) :
    Meaning :=
  let text := String.ofList name
  if specialNames.contains text then .special
  else
    match if functionsToo then process.state.functions.lookup name else none with
    | some body => .function body
    | none =>
      if regularNames.contains text then .regular
      else
        match filePath? (machine.hostOf process) name with
        | some path => .file path
        | none => .nothing

/-- What a name stands for. -/
def ofName (machine : Machine) (process : Process) (name : Text) : Meaning :=
  if reservedWords.contains name then .word
  else
    match process.state.aliases.lookup name with
    | some text => .shorthand text
    | none => ofCommand machine process true name

/-- A meaning in words. -/
def described (name : Text) : Meaning → Text
  | word => name ++ " is a shell keyword\n".toList
  | shorthand text => name ++ " is an alias for ".toList ++ text ++ ['\n']
  | special => name ++ " is a special shell builtin\n".toList
  | function _ => name ++ " is a shell function\n".toList
  | regular => name ++ " is a shell builtin\n".toList
  | file path => name ++ " is ".toList ++ path ++ ['\n']
  | nothing => name ++ ": not found\n".toList

/-- A meaning as a command. -/
def called (name : Text) : Meaning → Text
  | shorthand text => "alias ".toList ++ name ++ '=' :: singleQuotes text ++ ['\n']
  | file path => path ++ ['\n']
  | nothing => []
  | _ => name ++ ['\n']

/-- Whether a name stands for something. -/
def isSomething : Meaning → Bool
  | nothing => false
  | _ => true

end Meaning

/-- Tells what names stand for. -/
def Builtin.type : Builtin := fun _ words process machine ↦
  let meanings := words.map fun name ↦ (name, Meaning.ofName machine process name)
  let text := meanings.flatMap fun (name, meaning) ↦ meaning.described name
  (process.print "type" text (if meanings.all fun (_, m) ↦ m.isSomething then 0 else 127), machine)

/-- Looks for commands before they are run. -/
def Builtin.hash : Builtin :=
  .withOptions "hash" "r" fun _ _ words process machine ↦
    let missing := words.filter fun name ↦
      !name.contains '/' && !(Meaning.ofCommand machine process true name).isSomething
    ((process.ended (if missing.isEmpty then 0 else 1)).complainAll "hash"
      (missing.map (· ++ ": not found".toList)), machine)

/-- Tells what a name stands for, in words or as a command. -/
def tellMeaning (inWords : Bool) (words : List Text) (process : Process) (machine : Machine) :
    Process × Machine :=
  match words with
  | [] => (process.ended 0, machine)
  | name :: _ =>
    let meaning := Meaning.ofName machine process name
    let text := if inWords then meaning.described name else meaning.called name
    (process.print "command" text (if meaning.isSomething then 0 else 127), machine)

end Dialogue.Machine
