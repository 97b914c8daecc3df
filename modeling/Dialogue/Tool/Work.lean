import Dialogue.Machine.Job

/-!
# Work

Work is a part of a job that yields a value for the next part: reading, writing, looking at files.
What a tool prints lies on its desk until there is enough of it (`put`), and is written when the
tool ends or complains, so that it comes in the right order. An output that cannot be written ends
the tool.
-/

set_option autoImplicit false
set_option relaxedAutoImplicit false

namespace Dialogue.Tool

open Dialogue.Machine

/-- What a tool has to hand: its name, and the output that it holds back. -/
structure Desk where
  /-- The name that the tool was called by. -/
  name : Text
  /-- The output that is held back, the last piece first. -/
  held : List Text
  size : Nat
  /-- How much output is enough to be written. -/
  room : Nat
  /-- Whether every line is enough. -/
  byLine : Bool
  deriving Repr, DecidableEq, Inhabited

namespace Desk

/-- How much output is enough, as a rule. -/
def standardRoom : Nat := 4096

/-- The desk of a tool that has done nothing. A variable may ask for all output at once, or line by
line. -/
def clear (name : Text) (environment : List (Text × Text)) : Desk :=
  let wish := environment.lookup "_STDBUF_O".toList
  ⟨name, [], 0, if wish == some ['0'] then 0 else standardRoom, wish == some ['L']⟩

/-- All of the output that is held back. -/
def output (desk : Desk) : Text :=
  desk.held.reverse.flatten

/-- The desk with other output that is held back. -/
def holding (desk : Desk) (text : Text) : Desk :=
  { desk with held := [text], size := text.length }

/-- Ends the tool because its output cannot be written. -/
def giveUp (desk : Desk) (error : FileError) : Job :=
  .fail desk.name ("write error: ".toList ++ error.wording) 1

/-- Writes a text to the output and goes on. -/
def write (desk : Desk) (text : Text) (next : Unit → Job) : Job :=
  if text.isEmpty then next ()
  else .writes 1 text fun
    | none => next ()
    | some error => desk.giveUp error

/-- Writes all output that is held back and goes on. -/
def release (desk : Desk) (next : Desk → Job) : Job :=
  desk.write desk.output fun () ↦ next { desk with held := [], size := 0 }

end Desk

/-- A part of a job that yields a value. -/
def Work (α : Type) : Type := Desk → (α → Desk → Job) → Job

namespace Work

instance : Monad Work where
  pure value := fun desk next ↦ next value desk
  bind work next := fun desk last ↦ work desk fun value desk ↦ next value desk last

/-- The job of a tool that is called by a name: its work yields the status. -/
def job (name : Text) (environment : List (Text × Text)) (work : Work Nat) : Job :=
  work (.clear name environment) fun status desk ↦ desk.release fun _ ↦ .ends status

/-- Ends the tool. -/
def stop {α : Type} (status : Nat) : Work α := fun desk _ ↦
  desk.release fun _ ↦ .ends status

/-- Never goes on. -/
def rest {α : Type} : Work α := fun desk _ ↦
  desk.release fun _ ↦ .rests

/-! ### Output -/

/-- Writes all output that is held back. -/
def flush : Work Unit := fun desk next ↦
  desk.release (next ())

/-- Prints a text. -/
def put (text : Text) : Work Unit := fun desk next ↦
  let size := desk.size + text.length
  if desk.byLine && text.contains '\n' then
    let rest := (text.reverse.takeWhile (· != '\n')).reverse
    let whole := (text.take (text.length - rest.length) :: desk.held).reverse.flatten
    desk.write whole fun () ↦ next () (desk.holding rest)
  else if size < desk.room then next () { desk with held := text :: desk.held, size := size }
  else
    let whole := (text :: desk.held).reverse.flatten
    let count := if desk.room = 0 then size else size / desk.room * desk.room
    desk.write (whole.take count) fun () ↦ next () (desk.holding (whole.drop count))

/-- Prints a line. -/
def putLine (line : Text) : Work Unit :=
  put (line ++ ['\n'])

/-- Holds no output back from now on. -/
def holdNothing : Work Unit := fun desk next ↦
  next () { desk with room := 0 }

/-- Writes a text to the diagnostics. -/
def report (text : Text) : Work Unit := fun desk next ↦
  desk.release fun desk ↦ .writes 2 text fun _ ↦ next () desk

/-- Writes a complaint of the tool. -/
def complain (message : Text) : Work Unit := fun desk next ↦
  report (desk.name ++ ": ".toList ++ message ++ ['\n']) desk next

/-- Complains and ends. -/
def fail {α : Type} (message : Text) (status : Nat) : Work α := do
  complain message
  stop status

/-- The name that the tool was called by. -/
def toolName : Work Text := fun desk next ↦ next desk.name desk

/-! ### Streams -/

/-- Reads what is there from a stream. -/
def read (stream : Nat) : Work Incoming := fun desk next ↦
  .reads stream fun incoming ↦ next incoming desk

/-- Reads a stream to its end: all of it, and what went wrong. -/
def readAll (stream : Nat) : Work (Text × Option FileError) := fun desk next ↦
  Job.readAll stream (fun text error ↦ next (text, error) desk) [] Job.fuelLimit

/-- Gives back the last characters that were read from a stream. -/
def giveBack (stream count : Nat) : Work Unit := fun desk next ↦
  .returns stream count fun () ↦ next () desk

/-- How large the file is that a stream leads to, if it is one. -/
def fileSize? (stream : Nat) : Work (Option Nat) := fun desk next ↦
  .measures stream fun size ↦ next size desk

/-- Writes a text to a stream at once. -/
def writeTo (stream : Nat) (text : Text) : Work (Option FileError) := fun desk next ↦
  .writes stream text fun error ↦ next error desk

/-- Opens a file: the number of the stream. -/
def openFile (path : Text) (access : Access) : Work (Except FileError Nat) := fun desk next ↦
  .opens path access fun result ↦ next result desk

/-- Closes a stream. -/
def close (stream : Nat) : Work Unit := fun desk next ↦
  .closes stream fun () ↦ next () desk

/-! ### Files and other commands -/

/-- The files as they are. -/
def host : Work Host := fun desk next ↦
  .asks fun host ↦ next host desk

/-- Puts other files in place of those that are there. -/
def changeFiles (tree : Tree) : Work Unit := fun desk next ↦
  .changes tree fun () ↦ next () desk

/-- Waits for some time. -/
def sleep (time : Duration) : Work Unit := fun desk next ↦
  desk.release fun desk ↦ .sleeps time fun () ↦ next () desk

/-- Runs a command, for some time at most: its status, if it ended on its own. -/
def run (words : List Text) (environment : List (Text × Text)) (limit : Option Duration) :
    Work (Except FileError (Option Nat)) := fun desk next ↦
  desk.release fun desk ↦ .runs words environment limit fun result ↦ next result desk

/-- Gives way to a command. It yields why that cannot be done. -/
def become (words : List Text) (environment : List (Text × Text)) : Work FileError :=
  fun desk next ↦ desk.release fun desk ↦ .becomes words environment fun error ↦ next error desk

/-! ### Loops -/

/-- Repeats a step until it yields the result, some number of times at most. -/
def loopUpTo {σ α : Type} (step : σ → Work (σ ⊕ α)) (state : σ) : Nat → Work α
  | 0 => rest
  | fuel + 1 => fun desk next ↦ step state desk fun
    | .inl state, desk => loopUpTo step state fuel desk next
    | .inr result, desk => next result desk

/-- Repeats a step until it yields the result. -/
def loop {σ α : Type} (step : σ → Work (σ ⊕ α)) (state : σ) : Work α :=
  loopUpTo step state Job.fuelLimit

/-- Does something with each of some values in turn, and passes a state on. -/
def fold {σ α : Type} (step : σ → α → Work σ) (state : σ) : List α → Work σ
  | [] => pure state
  | value :: rest => do fold step (← step state value) rest

end Work

end Dialogue.Tool
