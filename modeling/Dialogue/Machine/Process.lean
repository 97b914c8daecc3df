import Dialogue.Machine.Job
import Dialogue.Machine.Stream
import Dialogue.Shell.Expansion
import Dialogue.Shell.Parser

/-!
# Processes

A process has streams, the state of a shell, and a list of tasks, the next one first. A command that
is built from others gives way to tasks for its parts, with a task in between that looks at the
status of what came before. Some tasks mark the end of a loop, of a function or of a shell within
the process: a command that leaves one of them drops all tasks up to the mark
(`Process.leaveLoops`, `Process.leaveFunction`, `Process.leaveShell`).
-/

set_option autoImplicit false
set_option relaxedAutoImplicit false

namespace Dialogue.Machine

open Dialogue.Shell

/-! ### Tasks -/

/-- A simple command whose words are expanded. -/
structure Call where
  line : Nat
  texts : List Text
  /-- The assignments that are still to be made. -/
  assignments : List (Text × Word)
  /-- The assignments that were made, as they are written, the last one first. -/
  written : List Text
  /-- For assignments that hold for the command only, what the variables were before. -/
  before : Option (List (Text × Option Variable))
  /-- The streams that come back after the command. -/
  streams : Streams
  /-- Whether the streams are others during the command. -/
  isRedirected : Bool
  tested : Bool
  deriving Inhabited

/-- What the words of an expansion are for. -/
inductive Aim where
  /-- The words and the targets of a simple command. -/
  | simple (line : Nat) (assignments : List (Text × Word)) (count : Nat)
      (redirections : List Redirection) (tested : Bool)
  /-- The value of a variable. -/
  | assignment (name : Text) (call : Call)
  /-- The targets of a command with redirections. -/
  | targets (line : Nat) (command : Command) (redirections : List Redirection) (tested : Bool)
  /-- The words that a loop goes over. -/
  | each (line : Nat) (name : Text) (body : Command) (tested : Bool)
  /-- The word of a case distinction. -/
  | subject (line : Nat) (branches : List (List Word × Command)) (tested : Bool)
  /-- A pattern of a case distinction. -/
  | pattern (subject : Text) (others : List Word) (body : Command)
      (branches : List (List Word × Command)) (tested : Bool)
  deriving Inhabited

/-- What comes back at the end of a shell within a process. -/
structure Saved where
  state : State
  streams : Streams
  deriving Inhabited

/-- The output of a command that is part of a word. -/
structure Kept where
  pipe : Nat
  /-- The endpoint from which the pipe is read. -/
  reader : Nat
  /-- Whether the output is quoted. -/
  quoted : Bool
  deriving Repr, DecidableEq, Inhabited

/-- A line that is being read into variables. -/
structure Reading where
  raw : Bool
  names : List Text
  /-- What was read so far, the last piece first. -/
  pieces : List Text
  deriving Repr, DecidableEq, Inhabited

/-- Where commands come from. -/
inductive Origin where
  /-- A text that is there from the start. -/
  | whole
  /-- The input of the shell. -/
  | input
  deriving Repr, DecidableEq, Inhabited

/-- What a process is going to do. -/
inductive Task where
  /-- Runs a command. The status of a tested one is looked at by another one. -/
  | run (command : Command) (tested : Bool)
  | expand (expansion : Expansion) (aim : Aim)
  /-- The end of a command whose output is part of a word. -/
  | endOutput (saved : Saved) (kept : Kept) (expansion : Expansion) (aim : Aim)
  /-- Waits for all of the output of such a command. -/
  | collect (kept : Kept) (expansion : Expansion) (aim : Aim)
  /-- Makes the assignments of a simple command. -/
  | assign (call : Call)
  | perform (call : Call)
  /-- Gives up if the last command failed and the shell was told to. -/
  | check (tested : Bool)
  | restoreStreams (streams : Streams)
  | restoreVariables (before : List (Text × Option Variable))
  /-- Runs a command if the one before it succeeded, or if it failed. -/
  | second (onSuccess : Bool) (command : Command) (tested : Bool)
  | negate
  | choose (positive negative : Command) (tested : Bool)
  /-- Looks at the condition of a loop. -/
  | loopTest (negated : Bool) (condition body : Command) (tested : Bool) (status : Nat)
  | loopAgain (negated : Bool) (condition body : Command) (tested : Bool)
  | eachNext (name : Text) (values : List Text) (body : Command) (tested : Bool)
  | endFunction (arguments : List Text) (loops : Nat)
  /-- The end of a file of commands. -/
  | endSource (within : Text)
  /-- The end of a command that runs a text. -/
  | endText (within : Text)
  /-- Runs what is to be done at the end of a shell. -/
  | finish
  /-- The end of a shell within the process. -/
  | endShell (saved : Saved)
  /-- Reads and runs commands. -/
  | script (scan : Scan) (origin : Origin) (started tested : Bool)
  /-- The end of what is done about a signal. -/
  | endTrap (status : Nat)
  | write (stream : Nat) (text : Text)
  /-- Writes the output of a command of the shell. -/
  | say (command : Text) (text : Text)
  | read (reading : Reading)
  | work (job : Job)
  /-- Waits for a time. -/
  | rest (time : Nat) (job : Job)
  /-- Waits for processes; the status is that of the last one. -/
  | await (numbers : List Nat)
  /-- Waits for processes that are in the background, for as long as no signal comes. Their status
  may count or not. -/
  | attend (numbers : List Nat) (counts : Bool)
  /-- Waits for a process, up to a time. -/
  | watch (number : Nat) (time : Option Nat) (next : Option Nat → Job)
  deriving Inhabited

/-! ### Processes -/

/-- A process. -/
structure Process where
  number : Nat
  parent : Nat
  streams : Streams
  state : State
  /-- Whether the status of the command at work is looked at by another one. -/
  tested : Bool
  tasks : List Task
  deriving Inhabited

namespace Process

/-- The process with some more tasks to be done first. -/
def push (process : Process) (tasks : List Task) : Process :=
  { process with tasks := tasks ++ process.tasks }

/-- The process with another state. -/
def withState (process : Process) (state : State) : Process :=
  { process with state := state }

/-- The process after a command with an outcome. -/
def ended (process : Process) (status : Nat) : Process :=
  { process with state := process.state.ended status }

/-- The endpoints that a process holds: those of its streams, and of the streams that come back. -/
def held (process : Process) : List Nat :=
  process.streams.map Prod.snd ++ process.tasks.flatMap fun
    | .restoreStreams streams => streams.map Prod.snd
    | .perform call | .assign call | .expand _ (.assignment _ call) => call.streams.map Prod.snd
    | .endShell saved => saved.streams.map Prod.snd
    | .endOutput saved kept _ _ => kept.reader :: saved.streams.map Prod.snd
    | .collect kept _ _ => [kept.reader]
    | _ => []

/-! ### Complaints -/

/-- A complaint of a shell as a line: it names the shell, the line and the command. -/
def complaintLine (state : State) (command message : Text) : Text :=
  state.name ++ ": ".toList ++ Text.ofNat state.line ++ ": ".toList
    ++ (if command.isEmpty then [] else command ++ ": ".toList) ++ message ++ ['\n']

/-- Writes a complaint about a command. -/
def complainOf (process : Process) (command message : Text) : Process :=
  process.push [.write 2 (complaintLine process.state command message)]

/-- Writes a complaint. -/
def complain (process : Process) (message : Text) : Process :=
  process.complainOf process.state.within message

/-- Writes a complaint of a command of the shell, which has failed. -/
def refuse (process : Process) (command : String) (message : Text) (status : Nat) : Process :=
  (process.ended status).complainOf command.toList message

/-! ### Leaving -/

/-- Undoes what a task that is dropped would have undone. -/
def dropTask (process : Process) (task : Task) : Process :=
  match task with
  | .restoreStreams streams => { process with streams := streams }
  | .restoreVariables before =>
    process.withState (before.foldl (fun s (name, old) ↦ s.restore name old) process.state)
  | .perform call | .assign call | .expand _ (.assignment _ call) =>
    { process with
      streams := call.streams
      state := (call.before.getD []).foldl (fun s (name, old) ↦ s.restore name old) process.state }
  | .loopTest _ _ _ _ _ | .loopAgain _ _ _ _ | .eachNext _ _ _ _ =>
    process.withState { process.state with loops := process.state.loops - 1 }
  | .endSource within | .endText within => process.withState { process.state with within := within }
  | .endFunction arguments loops =>
    let own := process.state.locals.headD []
    process.withState (own.foldl (fun s (name, old) ↦ s.restore name old)
      { process.state with
        arguments := arguments, loops := loops, locals := process.state.locals.drop 1 })
  | _ => process

/-- Drops tasks up to one that satisfies a test. -/
def dropUpTo (test : Task → Bool) (process : Process) : List Task → Process
  | [] => { process with tasks := [] }
  | task :: rest =>
    if test task then { process with tasks := task :: rest }
    else dropUpTo test (process.dropTask task) rest

/-- Whether a shell ends with a task. -/
def endsShell : Task → Bool
  | .finish => true
  | _ => false

/-- Whether a function or a file of commands ends with a task. -/
def endsFunction : Task → Bool
  | .endFunction _ _ | .endSource _ | .finish => true
  | _ => false

/-- Whether a loop goes on with a task, or a shell ends. -/
def endsLoop : Task → Bool
  | .loopTest _ _ _ _ _ | .loopAgain _ _ _ _ | .eachNext _ _ _ _ => true
  | .endFunction _ _ | .finish => true
  | _ => false

/-- Leaves the shell that is running, with a status. -/
def leaveShell (process : Process) (status : Nat) : Process :=
  (dropUpTo endsShell process process.tasks).ended status

/-- Leaves the function that is running, with a status. -/
def leaveFunction (process : Process) (status : Nat) : Process :=
  (dropUpTo endsFunction process process.tasks).ended status

/-- Leaves a number of loops. The last one of them may go on with its next round. -/
def leaveLoops (goesOn : Bool) (process : Process) : Nat → Process
  | 0 => process
  | count + 1 =>
    let outside := dropUpTo endsLoop process process.tasks
    match outside.tasks with
    | task :: rest =>
      if endsFunction task then outside
      else if count = 0 && goesOn then
        match task with
        | .loopTest negated condition body tested _ =>
          { outside with tasks := .loopAgain negated condition body tested :: rest }
        | _ => outside
      else leaveLoops goesOn { outside.dropTask task with tasks := rest } count
    | [] => outside

/-- Gives up after an error of a command: writes a complaint, and leaves the shell. -/
def giveUpOf (process : Process) (command message : Text) : Process :=
  let last := process.leaveShell 2
  { last with
    streams := process.streams
    tasks := .write 2 (complaintLine process.state command message)
      :: .restoreStreams last.streams :: last.tasks }

/-- Gives up after an error. -/
def giveUp (process : Process) (message : Text) : Process :=
  process.giveUpOf process.state.within message

end Process

end Dialogue.Machine
