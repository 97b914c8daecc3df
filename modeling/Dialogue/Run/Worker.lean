import Dialogue.Run.Schedule

/-!
# Watching a schedule

A queue is run by a worker, which sends every event to a receiver as it happens. Nobody has to
watch: a receiver may be dropped at any time, and an event that cannot be delivered is lost without
any effect on the run.
-/

set_option autoImplicit false
set_option relaxedAutoImplicit false

namespace Dialogue.Run

/-- The receiving end of a worker. -/
structure Receiver where
  /-- The events that have arrived, in their order. -/
  arrived : List Event
  /-- How many more events arrive before the receiver is dropped, if it is. -/
  patience? : Option Nat
  deriving Repr, DecidableEq

/-- Sends an event, which is given back if the receiver has been dropped. -/
def Receiver.send (receiver : Receiver) (event : Event) : Except Event Unit × Receiver :=
  match receiver.patience? with
  | some 0 => (.error event, receiver)
  | patience? => (.ok (), ⟨receiver.arrived ++ [event], patience?.map (· - 1)⟩)

namespace Schedule

/-- Runs jobs in their order, the first of which has a number among all, and sends what is announced
to a receiver, whether it is still there or not. -/
def watchJobs (program : Program) (options : Options) (index total : Nat) (host : Host)
    (receiver : Receiver) : List Job → List Report × Host × Receiver
  | [] => ([], host, receiver)
  | job :: rest =>
    let (_, receiver) := receiver.send (.started job.path.displayName job.path index total)
    let (report, after) := logged host program job.path job.script options
    let (_, receiver) := receiver.send (.finished report)
    let (reports, final, receiver) :=
      watchJobs program options (index + 1) total after receiver rest
    (report :: reports, final, receiver)

/-- Runs the queue while a receiver watches: what is said about the suite, the host afterwards, and
the receiver with what has arrived. -/
def watch (schedule : Schedule) (host : Host) (receiver : Receiver) :
    Summary × Host × Receiver :=
  let (reports, final, receiver) :=
    watchJobs schedule.program schedule.options 1 schedule.queue.length host receiver schedule.queue
  (⟨reports, schedule.skipped⟩, final, receiver)

end Schedule

end Dialogue.Run
