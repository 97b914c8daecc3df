import Dialogue.Child.Timeline
import Dialogue.Machine.Run
import Dialogue.Text.Quoted

/-!
# External programs

An external program is a command with arguments of its own, which come before those of a script,
and with a limit on how long it may keep the harness waiting. Starting it can fail in the ways in
which an executable cannot be found or run; once started, it is a child of the harness.
-/

set_option autoImplicit false
set_option relaxedAutoImplicit false

namespace Dialogue

/-- A command that is run as a program. -/
structure External where
  command : Path
  /-- The arguments in front of those of a script. -/
  arguments : List Text
  /-- Where the command is run, if not in the working directory. -/
  directory : Option Path
  limit : Duration
  deriving Repr, DecidableEq, Inhabited

namespace External

/-- How long a program may be silent unless it is said otherwise. -/
def standardLimit : Duration := .ofSeconds 5

/-- A command with nothing else said about it. -/
def ofCommand (command : Path) : External :=
  ⟨command, [], none, standardLimit⟩

/-- What goes wrong if a text that is handed over holds a character that would end it. -/
def endedText : Text := "nul byte found in provided data".toList

/-- The host as the command sees it. -/
def hostOf (external : External) (host : Host) : Except FileError Host :=
  match external.directory with
  | none => .ok host
  | some directory => do
    let place ← host.resolve directory
    match host.at? place with
    | none => .error .notFound
    | some (.file _ _) => .error .notADirectory
    | some (.directory _) => .ok { host with workingDirectory := place }

/-- Starts the command with some more arguments. -/
def start (external : External) (host : Host) (more : List Text) : Except Text Child :=
  let arguments := external.arguments ++ more
  let handed := external.command.text :: (external.directory.map Path.text).getD [] :: arguments
  if handed.any fun text ↦ text.contains (Char.ofNat 0) then .error endedText
  else
    let started : Except FileError Child := do
      let host ← external.hostOf host
      let (tool, leading) ← host.command external.command.text
      return Machine.launch host tool (Text.narrow external.command.text)
        ((leading ++ arguments).map Text.narrow)
    started.mapError FileError.message

/-- The fault of a command that cannot be started. -/
def startFault (external : External) (cause : Text) : Fault :=
  .reported ("Failed to spawn ".toList ++ Text.quoted external.command.text ++ ": ".toList ++ cause)

/-- The program that a command is. -/
def program (external : External) (host : Host) : Program :=
  .ofPeer external.command.displayName external.limit fun arguments ↦
    match external.start host arguments with
    | .ok child => .ok (child.peer external.limit)
    | .error cause => .error (external.startFault cause)

end External

end Dialogue
