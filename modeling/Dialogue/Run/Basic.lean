import Dialogue.Program
import Dialogue.Run.Report

/-!
# Running a script

A program is run against a script at a fresh console. What it has written without a line break at
its end goes out when it has ended, however it ended. The outcome is that of the first deviation on
the channel; without one, that of the program's own fault; without one, that of an unfinished
script.
-/

set_option autoImplicit false
set_option relaxedAutoImplicit false

namespace Dialogue.Run

/-- The message of a program that broke down without one. -/
def unknownPanic : Text := "unknown panic payload".toList

/-- The fault that an ending is, if it is one. -/
def faultOf? : Ending → Option Fault
  | .returned => none
  | .faulted fault => some fault
  | .panicked message => some (.panic (message.getD unknownPanic))

/-- The outcome of a run, from how the program ended and where the channel stands then. A deviation
in the run is recorded on the channel, so that none is lost if the program goes on after it. -/
def judge (ending : Ending) (channel : Channel) : Outcome × Channel :=
  match channel.failure with
  | some deviation => (.failed (.ofDeviation deviation), channel)
  | none =>
    match faultOf? ending with
    | some fault => (.failed (.ofFault fault), channel)
    | none =>
      match channel.finish with
      | (.ok (), after) => (.passed, after)
      | (.error deviation, after) => (.failed (.ofDeviation deviation), after)

/-- The line that opens a transcript. -/
def openingLine (marks : Marks) (name : Text) : Text :=
  marks.infoLine ("## file: ".toList ++ name)

/-- The channel of a run, with the opening line of its transcript. -/
def openChannel (script : Script) (marks : Marks) (name : Text) : Channel :=
  (Channel.start script marks).note (openingLine marks name)

/-- Where a run stands after the program has ended and what it held back has gone out. -/
def finalState (program : Program) (script : Script) (marks : Marks) (name : Text) :
    Ending × Channel :=
  let console := Console.opened (openChannel script marks name)
  let (ending, after) := program.invoke script.argumentList console
  (ending, after.emitAll.2.channel)

/-- Runs a program against a script. -/
def script (program : Program) (path : Path) (script : Script) (marks : Marks) : Report :=
  let name := path.displayName
  let (ending, channel) := finalState program script marks name
  let (outcome, channel) := judge ending channel
  let channel :=
    match outcome with
    | .passed => channel
    | .failed failure => channel.note (marks.errorLine failure.message)
  { name := name
    path := path
    arguments := script.argumentList
    inputs := script.inputCount
    outputs := script.outputCount
    outputsMatched := channel.outputsMatched
    outcome := outcome
    transcript := channel.transcript
    logPath := none }

end Dialogue.Run
