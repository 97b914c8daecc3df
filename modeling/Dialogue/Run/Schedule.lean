import Dialogue.Run.Log
import Dialogue.Script.Parser

/-!
# Schedules

A schedule is a queue of scripts for one program. A file is read when it is scheduled, and one that
is no script is skipped then. The queue is run in its order; before each script and after it an
event is announced.
-/

set_option autoImplicit false
set_option relaxedAutoImplicit false

namespace Dialogue

/-- The script in a file. -/
def Script.load (host : Host) (path : Path) : Except ScriptError Script :=
  match host.readText path with
  | .ok text => Script.parse text
  | .error error => .error (.unreadable error.message)

namespace Run

/-- A script in a queue. -/
structure Job where
  path : Path
  script : Script
  deriving DecidableEq

/-- What is announced while a queue is run. -/
inductive Event where
  | started (name : Text) (path : Path) (index total : Nat)
  | finished (report : Report)
  deriving Repr, DecidableEq

/-- A queue of scripts for one program. -/
structure Schedule where
  program : Program
  options : Options
  queue : List Job
  skipped : List Skipped

namespace Schedule

/-- A queue without scripts. -/
def empty (program : Program) (options : Options) : Schedule :=
  ⟨program, options, [], []⟩

/-- The queue with a script at its end. -/
def add (schedule : Schedule) (path : Path) (script : Script) : Schedule :=
  { schedule with queue := schedule.queue ++ [⟨path, script⟩] }

/-- What is said of a file that is no script. -/
def skip (path : Path) (error : ScriptError) : Skipped :=
  ⟨path.displayName, path, error.message⟩

/-- The queue with the script of a file at its end. A file that is no script is skipped. -/
def load (schedule : Schedule) (host : Host) (path : Path) :
    Except ScriptError Unit × Schedule :=
  match Script.load host path with
  | .ok script => (.ok (), schedule.add path script)
  | .error error =>
    (.error error, { schedule with skipped := schedule.skipped ++ [skip path error] })

/-- Runs jobs in their order, the first of which has a number among all. -/
def runJobs (program : Program) (options : Options) (index total : Nat) (host : Host) :
    List Job → List Event × List Report × Host
  | [] => ([], [], host)
  | job :: rest =>
    let (report, after) := logged host program job.path job.script options
    let (events, reports, final) := runJobs program options (index + 1) total after rest
    (.started job.path.displayName job.path index total :: .finished report :: events,
      report :: reports, final)

/-- Runs the queue: what is announced, what is said about the suite, and the host afterwards. -/
def run (schedule : Schedule) (host : Host) : List Event × Summary × Host :=
  let (events, reports, final) :=
    runJobs schedule.program schedule.options 1 schedule.queue.length host schedule.queue
  (events, ⟨reports, schedule.skipped⟩, final)

end Schedule

end Run

end Dialogue
