import Dialogue.Proofs.Run.Verdict
import Dialogue.Run.Worker

/-!
# What a schedule does

Scheduling is a sequence of calls, each with a file or with a script. A call adds one job to the
queue or one entry to what is skipped, and changes nothing else, so after any calls the schedule is
what they leave one by one (`callAll_eq`).

A run takes the jobs one after the other. Each of them is run on a channel of its own, and a report
does not depend on the host but for its log, so the reports are those that the jobs get one by one
(`map_withoutLog_runJobs`), whatever happened to the jobs before them. The announcements are a pair
for each job (`events_runJobs`), and who watches them makes no difference (`watchJobs_eq`).
`schedule_faithful` puts the parts together.
-/

set_option autoImplicit false
set_option relaxedAutoImplicit false

namespace Dialogue.Run

/-! ### Calls -/

/-- A call that schedules something: a file as it stands on the host at that time, or a script that
has been parsed before. -/
inductive Call where
  | file (host : Host) (path : Path)
  | parsed (path : Path) (script : Script)

namespace Call

def path : Call → Path
  | file _ path | parsed path _ => path

/-- The script that is scheduled, or why there is none. -/
def loaded : Call → Except ScriptError Script
  | file host path => Script.load host path
  | parsed _ script => .ok script

/-- The job that a call adds to the queue, if it does. -/
def job? (call : Call) : Option Job :=
  match call.loaded with
  | .ok script => some ⟨call.path, script⟩
  | .error _ => none

/-- What a call adds to what is skipped, if it does: the last name of its path, the path as it was
given, and the words of what is wrong with the file. -/
def skipped? (call : Call) : Option Skipped :=
  match call.loaded with
  | .ok _ => none
  | .error error =>
    some { name := call.path.displayName, path := call.path, reason := error.message }

/-- The answer to a call. -/
def answer (call : Call) : Except ScriptError Unit :=
  call.loaded.map fun _ ↦ ()

theorem isSome_job? (call : Call) : call.job?.isSome = call.loaded.isOk := by
  rw [job?]
  cases call.loaded <;> rfl

theorem isSome_skipped? (call : Call) : call.skipped?.isSome = !call.loaded.isOk := by
  rw [skipped?]
  cases call.loaded <;> rfl

end Call

namespace Schedule

/-- Schedules what a call says. -/
def call (schedule : Schedule) : Call → Except ScriptError Unit × Schedule
  | .file host path => schedule.load host path
  | .parsed path script => (.ok (), schedule.add path script)

/-- The schedule after some calls. -/
def callAll (schedule : Schedule) (calls : List Call) : Schedule :=
  calls.foldl (fun schedule call ↦ (schedule.call call).2) schedule

/-- A call is answered for its script, and adds to the queue or to what is skipped. -/
theorem call_eq (schedule : Schedule) (call : Call) :
    schedule.call call = (call.answer, { schedule with
      queue := schedule.queue ++ call.job?.toList
      skipped := schedule.skipped ++ call.skipped?.toList }) := by
  cases call with
  | file host path =>
    simp only [Schedule.call, load, Call.answer, Call.job?, Call.skipped?, Call.loaded, Call.path]
    cases Script.load host path <;> simp [Except.map, add, skip]
  | parsed path script =>
    simp [Schedule.call, add, Call.answer, Call.job?, Call.skipped?, Call.loaded, Call.path,
      Except.map]

/-- After some calls the queue holds their jobs, and what is skipped are the files that were no
scripts, both in the order of the calls. -/
theorem callAll_eq (schedule : Schedule) (calls : List Call) :
    schedule.callAll calls = { schedule with
      queue := schedule.queue ++ calls.filterMap Call.job?
      skipped := schedule.skipped ++ calls.filterMap Call.skipped? } := by
  induction calls generalizing schedule with
  | nil => simp [callAll]
  | cons call calls ih =>
    rw [callAll, List.foldl_cons, ← callAll, ih, call_eq, List.filterMap_cons, List.filterMap_cons]
    cases call.job? <;> cases call.skipped? <;> simp

/-! ### Jobs -/

section Jobs

variable (program : Program) (options : Options)

/-- The reports of a run, but for their logs, are those of the jobs by themselves. -/
theorem map_withoutLog_runJobs (index total : Nat) (host : Host) (jobs : List Job) :
    (runJobs program options index total host jobs).2.1.map withoutLog =
      jobs.map fun job ↦ Run.script program job.path job.script options.marks := by
  induction jobs generalizing index host with
  | nil => rfl
  | cons job jobs ih =>
    simp only [runJobs, List.map_cons, ih, withoutLog_logged]

/-- The announcements of a run are a pair for each job, with its number and its report. -/
theorem events_runJobs (index total : Nat) (host : Host) (jobs : List Job) :
    (runJobs program options index total host jobs).1 =
      ((jobs.zip (runJobs program options index total host jobs).2.1).zipIdx index).flatMap
        fun ((job, report), k) ↦
          [.started job.path.displayName job.path k total, .finished report] := by
  induction jobs generalizing index host with
  | nil => rfl
  | cons job jobs ih =>
    simp only [runJobs, List.zip_cons_cons, List.zipIdx_cons, List.flatMap_cons]
    rw [ih]
    rfl

end Jobs

end Schedule

/-! ### Receivers -/

namespace Receiver

/-- A receiver to which some events have been sent. -/
def sendAll (receiver : Receiver) (events : List Event) : Receiver :=
  events.foldl (fun receiver event ↦ (receiver.send event).2) receiver

/-- What arrives are all events, or those before the receiver is dropped. -/
theorem arrived_sendAll (receiver : Receiver) (events : List Event) :
    (receiver.sendAll events).arrived = receiver.arrived ++
      match receiver.patience? with
      | none => events
      | some patience => events.take patience := by
  obtain ⟨arrived, patience?⟩ := receiver
  induction events generalizing arrived patience? with
  | nil => cases patience? <;> simp [sendAll]
  | cons event events ih =>
    rw [sendAll, List.foldl_cons, ← sendAll]
    rcases patience? with _ | _ | patience
    · simp only [send, Option.map_none, ih, List.append_assoc, List.singleton_append]
    · simp only [send, ih, List.take_zero]
    · simp only [send, Option.map_some, Nat.add_sub_cancel, ih, List.append_assoc,
        List.singleton_append, List.take_succ_cons]

end Receiver

namespace Schedule

/-- A run does the same whoever watches it. -/
theorem watchJobs_eq (program : Program) (options : Options) (index total : Nat) (host : Host)
    (receiver : Receiver) (jobs : List Job) :
    watchJobs program options index total host receiver jobs =
      ((runJobs program options index total host jobs).2.1,
        (runJobs program options index total host jobs).2.2,
        receiver.sendAll (runJobs program options index total host jobs).1) := by
  induction jobs generalizing index host receiver with
  | nil => rfl
  | cons job jobs ih =>
    simp only [watchJobs, runJobs, ih]
    rfl

theorem watch_eq (schedule : Schedule) (host : Host) (receiver : Receiver) :
    schedule.watch host receiver =
      ((schedule.run host).2.1, (schedule.run host).2.2,
        receiver.sendAll (schedule.run host).1) := by
  rw [watch, watchJobs_eq]
  rfl

/-- Scheduling loses, repeats and reorders nothing, and no script has an effect on another. Whatever
files and scripts are scheduled, each call is answered for its own script, and after any of them the
queue holds the scripts and what is skipped are the files that were none, in the order of the calls.
A run has one report for each script in the queue, in its order: the one that the script gets by
itself on any host, but for its log. What is announced are the start and the report of one script
after the other, with its number. Whoever watches, and for however long, gets the first of these
announcements and changes nothing about the run. -/
theorem schedule_faithful (program : Program) (options : Options) (calls : List Call)
    (host alone : Host) (receiver : Receiver) :
    let schedule := (empty program options).callAll calls
    let jobs := calls.filterMap Call.job?
    let (events, summary, final) := schedule.run host
    (∀ earlier call later, calls = earlier ++ call :: later →
      let before := (empty program options).callAll earlier
      let after := (before.call call).2
      (before.call call).1 = call.loaded.map (fun _ ↦ ()) ∧
        before.queue = earlier.filterMap Call.job? ∧
        before.skipped = earlier.filterMap Call.skipped? ∧
        after.queue.length = (earlier ++ [call]).countP (·.loaded.isOk) ∧
        after.skipped.length = (earlier ++ [call]).countP (!·.loaded.isOk)) ∧
      schedule.queue = jobs ∧
      summary.skipped = calls.filterMap Call.skipped? ∧
      summary.reports.map withoutLog =
        (jobs.map fun job ↦ withoutLog (logged alone program job.path job.script options).1) ∧
      events = ((jobs.zip summary.reports).zipIdx 1).flatMap (fun ((job, report), k) ↦
        [.started job.path.displayName job.path k jobs.length, .finished report]) ∧
      let (told, left, watched) := schedule.watch host receiver
      told = summary ∧ left = final ∧ watched.arrived = receiver.arrived ++
        match receiver.patience? with
        | none => events
        | some patience => events.take patience := by
  intro schedule jobs
  have hafter (first : List Call) : (empty program options).callAll first =
      ⟨program, options, first.filterMap Call.job?, first.filterMap Call.skipped?⟩ :=
    callAll_eq _ first
  have hschedule : schedule = ⟨program, options, jobs, calls.filterMap Call.skipped?⟩ :=
    hafter calls
  have hwatch := watch_eq schedule host receiver
  refine ⟨fun earlier call later _ ↦ ?_, ?_, ?_, ?_, ?_, congrArg Prod.fst hwatch,
    congrArg (·.2.1) hwatch, ?_⟩
  · have hstep : (((empty program options).callAll earlier).call call).2 =
        (empty program options).callAll (earlier ++ [call]) := by
      rw [callAll, callAll, List.foldl_append]
      rfl
    refine ⟨congrArg Prod.fst (call_eq _ call), ?_, ?_, ?_, ?_⟩
    · rw [hafter]
    · rw [hafter]
    · rw [hstep, hafter, List.length_filterMap_eq_countP]
      exact List.countP_congr fun call _ ↦ by rw [Call.isSome_job?]
    · rw [hstep, hafter, List.length_filterMap_eq_countP]
      exact List.countP_congr fun call _ ↦ by rw [Call.isSome_skipped?]
  · rw [hschedule]
  · rw [hschedule]
  · simp only [withoutLog_logged]
    rw [hschedule]
    exact map_withoutLog_runJobs program options 1 jobs.length host jobs
  · rw [hschedule]
    exact events_runJobs program options 1 jobs.length host jobs
  · refine (congrArg (·.2.2.arrived) hwatch).trans ?_
    exact Receiver.arrived_sendAll receiver _

end Schedule

end Dialogue.Run
