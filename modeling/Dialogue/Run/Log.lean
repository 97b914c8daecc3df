import Dialogue.Run.Basic
import Dialogue.Files.Host

/-!
# Logs

The transcript of a run can be stored in a directory of logs, under the name of its script. A log
that cannot be stored is left out; the run itself is not affected.
-/

set_option autoImplicit false
set_option relaxedAutoImplicit false

namespace Dialogue.Run

/-- What all runs of a suite have in common. -/
structure Options where
  marks : Marks
  /-- Where logs are stored, if they are. -/
  logDirectory : Option Path
  deriving Repr, DecidableEq, Inhabited

/-- The name of a script's log. -/
def logName (path : Path) : Text :=
  path.stem?.getD [] ++ "Test.log".toList

/-- The path of a script's log in a directory of logs. -/
def logPath (directory path : Path) : Path :=
  directory.child (logName path)

/-- Stores a text in a directory, which is made if it is missing. -/
def store (host : Host) (directory path : Path) (text : Text) : Except FileError Host := do
  let made ← host.makeDirectories directory
  made.writeText path text

/-- A report, with its transcript stored if logs are and it can be. -/
def withLog (host : Host) (options : Options) (report : Report) : Report × Host :=
  match options.logDirectory with
  | none => (report, host)
  | some directory =>
    let path := logPath directory report.path
    match store host directory path report.transcript with
    | .ok stored => ({ report with logPath := some path }, stored)
    | .error _ => (report, host)

/-- Runs a program against a script and stores the transcript. -/
def logged (host : Host) (program : Program) (path : Path) (script : Script)
    (options : Options) : Report × Host :=
  withLog host options (Run.script program path script options.marks)

end Dialogue.Run
