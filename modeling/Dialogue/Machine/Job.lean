import Dialogue.Files.Host
import Dialogue.Text.Duration

/-!
# Jobs

A job is what a tool does, as a tree: it reads from its streams and writes to them, looks at files
and changes them, waits, runs other commands, and ends with a status. It knows nothing of the
processes around it. What follows a step is worked out when the step is done. A job that may go on
for ever takes fuel, and without fuel it rests for ever.
-/

set_option autoImplicit false
set_option relaxedAutoImplicit false

namespace Dialogue.Machine

/-- What is read from a stream at once. -/
inductive Incoming where
  /-- Some text, which is not empty. -/
  | text (text : Text)
  /-- There is nothing more to be read. -/
  | finish
  | refused (error : FileError)
  deriving Repr, DecidableEq, Inhabited

/-- What is done with a file that is opened. -/
inductive Access where
  | read
  /-- The file is made, or emptied if it is there. -/
  | write
  /-- The file is made if it is not there. -/
  | append
  /-- The same, but what is written starts at the beginning. -/
  | readWrite
  deriving Repr, DecidableEq, Inhabited

/-- What a tool does. -/
inductive Job where
  | ends (status : Nat)
  /-- It never does anything again. -/
  | rests
  | writes (stream : Nat) (text : Text) (next : Option FileError → Job)
  | reads (stream : Nat) (next : Incoming → Job)
  /-- Gives back the last characters that were read, if they come from a file. -/
  | returns (stream count : Nat) (next : Unit → Job)
  /-- Looks how large the file is that a stream leads to, if it is one. -/
  | measures (stream : Nat) (next : Option Nat → Job)
  | asks (next : Host → Job)
  /-- Puts other files in place of those that are there. -/
  | changes (tree : Tree) (next : Unit → Job)
  | opens (path : Text) (access : Access) (next : Except FileError Nat → Job)
  | closes (stream : Nat) (next : Unit → Job)
  | sleeps (time : Duration) (next : Unit → Job)
  /-- Gives way to another command, unless that cannot be run. -/
  | becomes (words : List Text) (environment : List (Text × Text)) (next : FileError → Job)
  /-- Runs another command and waits for it, for some time at most: no status is told of a command
  that was stopped. -/
  | runs (words : List Text) (environment : List (Text × Text)) (limit : Option Duration)
      (next : Except FileError (Option Nat) → Job)

instance : Inhabited Job := ⟨.ends 0⟩

namespace Job

/-- Writes a line about a tool to the diagnostics and goes on. -/
def complain (name message : Text) (next : Unit → Job) : Job :=
  .writes 2 (name ++ ": ".toList ++ message ++ ['\n']) fun _ ↦ next ()

/-- Complains and ends. -/
def fail (name message : Text) (status : Nat) : Job :=
  complain name message fun () ↦ .ends status

/-- Reads a stream to its end and goes on with all of it, or with what went wrong. The pieces that
were read before are given, the last one first. -/
def readAll (stream : Nat) (next : Text → Option FileError → Job) (pieces : List Text) : Nat → Job
  | 0 => .rests
  | fuel + 1 => .reads stream fun
    | .text text => readAll stream next (text :: pieces) fuel
    | .finish => next pieces.reverse.flatten none
    | .refused error => next pieces.reverse.flatten (some error)

/-- How many steps a job may take that could go on for ever. -/
def fuelLimit : Nat := 1000000000

end Job

end Dialogue.Machine
