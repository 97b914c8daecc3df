import Dialogue.Proofs.Json.Reading
import Dialogue.Proofs.Run.Logs
import Dialogue.Proofs.Session.SetupFailure

/-!
# The summary of a run

A run that gets to its scripts has found its configuration, its scripts and its program, has saved
the configuration if that was asked for, and has made the directory of the logs
(`Session.Starts`). From then on nothing goes wrong: the scripts are read and run, and what is
printed last is what the choices ask for (`Session.conduct_of_starts`). Every run that does not end
with a failure to set up has started in this way (`Session.exists_starts`).

For machines the summary is printed as one document and nothing else, except for the line that says
where the configuration was saved, with which the output is no document
(`Session.conduct_run_json`).
-/

set_option autoImplicit false
set_option relaxedAutoImplicit false

namespace Dialogue

open Run (Schedule)

/-- The job that a call adds to the queue is about its file. -/
theorem Run.Call.map_path_job? (call : Run.Call) :
    call.job?.map Run.Job.path = if call.loaded.isOk then some call.path else none := by
  rw [job?]
  cases call.loaded <;> rfl

namespace Session

variable {host saved : Host} {colored : Bool} {selection : Selection} {choices : Choices}
  {origin : Origin} {config : Config} {suite : Suite} {named : Text × Program} {session : Session}

/-- The host on which the scripts of a suite are read: the directory of the logs is made. -/
def ready (saved : Host) (config : Config) (suite : Suite) : Host :=
  (saved.attemptDirectories (config.logDirectoryFor suite.directory)).2

/-- A run gets to its scripts. -/
structure Starts (host : Host) (selection : Selection) (choices : Choices) (origin : Origin)
    (suite : Suite) (saved : Host) (named : Text × Program) : Prop where
  chosen_eq : chosen host selection choices.program = .ok origin
  suiteOf_eq : suiteOf host origin selection.path = .ok suite
  saved_eq : if choices.saving then
      (savedConfig host origin.config selection.path).save host origin.target = .ok saved
    else saved = host
  programOf_eq : programOf saved origin.config = .ok named
  logs_eq : (saved.attemptDirectories (origin.config.logDirectoryFor suite.directory)).1 = .ok ()

/-- The schedule of a run that gets to its scripts. -/
def scheduled (saved : Host) (config : Config) (suite : Suite) (program : Program) : Schedule :=
  scheduleOf (ready saved config suite) config suite program

/-- How the scripts of a run are run: what is announced, what is said about them, and the host
afterwards. -/
def carriedOut (saved : Host) (config : Config) (suite : Suite) (program : Program) :
    List Run.Event × Summary × Host :=
  (scheduled saved config suite program).run (ready saved config suite)

/-- How results are shown in a run. -/
def displayOf (colored : Bool) (choices : Choices) (config : Config) : Display :=
  { Display.standard with
    transcripts := choices.transcripts
    colored := colored
    marks := config.marks }

/-- What is printed about the scripts of a run. -/
def linesOf (colored : Bool) (choices : Choices) (saved : Host) (config : Config) (suite : Suite)
    (named : Text × Program) : List Text :=
  let outcome := carriedOut saved config suite named.2
  shownLines (displayOf colored choices config) choices named.1
    (scheduled saved config suite named.2).queue.length outcome.1 outcome.2.1

/-- What is printed about the configuration before the scripts are run. -/
def savingOutput (choices : Choices) (origin : Origin) : Text :=
  if choices.saving then savedOutput origin else []

/-! ### How a run goes -/

theorem run_runSuite_of_ready (session : Session)
    (hprogram : programOf session.host config = .ok named)
    (hlogs : (session.host.attemptDirectories (config.logDirectoryFor suite.directory)).1 =
      .ok ()) :
    (runSuite config suite choices).run.run session =
      (.ok (carriedOut session.host config suite named.2).2.1.exitStatus, { session with
        host := (carriedOut session.host config suite named.2).2.2
        output := session.output ++ Display.printed
          (linesOf session.colored choices session.host config suite named) }) := by
  have hsetUp : (setUp config suite).run.run session =
      (.ok named, { session with host := ready session.host config suite }) := by
    rw [run_setUp, hprogram]
    dsimp only
    rw [hlogs]
    rfl
  rw [run_runSuite, hsetUp]
  rfl

/-- A run that gets to its scripts runs them, prints what the choices ask for, and ends with the
status that the summary calls for. -/
theorem conduct_of_starts (colored : Bool)
    (h : Starts host selection choices origin suite saved named) :
    conduct host colored (.run selection choices) =
      ⟨(carriedOut saved origin.config suite named.2).2.2,
        savingOutput choices origin
          ++ Display.printed (linesOf colored choices saved origin.config suite named),
        none, (carriedOut saved origin.config suite named.2).2.1.exitStatus⟩ := by
  have hsaved := h.saved_eq
  rw [conduct, perform, run_run, start, h.chosen_eq]
  dsimp only
  rw [h.suiteOf_eq, savingOutput]
  dsimp only
  split_ifs at hsaved ⊢ with hsaving
  · rw [run_save]
    dsimp only
    rw [hsaved]
    dsimp only
    rw [run_runSuite_of_ready ⟨saved, _, _, _⟩ h.programOf_eq h.logs_eq]
    rfl
  · subst hsaved
    rw [run_runSuite_of_ready ⟨saved, _, _, _⟩ h.programOf_eq h.logs_eq]

/-- A suite is set up only if its program is there and the directory of its logs can be made. -/
theorem exists_of_runSuite_ok {status : ExitStatus} {after : Session}
    (h : (runSuite config suite choices).run.run session = (.ok status, after)) :
    ∃ named, programOf session.host config = .ok named ∧
      (session.host.attemptDirectories (config.logDirectoryFor suite.directory)).1 = .ok () := by
  rw [run_runSuite, run_setUp] at h
  rcases hprogram : programOf session.host config with error | named
  · rw [hprogram] at h
    exact nomatch (Prod.mk.inj h).1
  · rw [hprogram] at h
    rcases hlogs : (session.host.attemptDirectories (config.logDirectoryFor suite.directory)).1 with
      error | ⟨⟩
    · dsimp only at h
      rw [hlogs] at h
      exact nomatch (Prod.mk.inj h).1
    · exact ⟨named, rfl, rfl⟩

/-- A run that does not fail to be set up gets to its scripts. -/
theorem exists_starts
    (h : (conduct host colored (.run selection choices)).status ≠ .setupFailure) :
    ∃ origin suite saved named, Starts host selection choices origin suite saved named := by
  rcases hrun : (run selection choices).run.run (start host colored) with ⟨error | status, after⟩
  · rw [conduct_of_run_error hrun] at h
    exact absurd rfl h
  rw [run_run, start] at hrun
  rcases hchosen : chosen host selection choices.program with error | origin
  · rw [hchosen] at hrun
    exact nomatch (Prod.mk.inj hrun).1
  rw [hchosen] at hrun
  dsimp only at hrun
  rcases hsuite : suiteOf host origin selection.path with error | suite
  · rw [hsuite] at hrun
    exact nomatch (Prod.mk.inj hrun).1
  rw [hsuite] at hrun
  dsimp only at hrun
  split_ifs at hrun with hsaving
  · rw [run_save] at hrun
    dsimp only at hrun
    rcases hsave : (savedConfig host origin.config selection.path).save host origin.target with
      error | saved
    · rw [hsave] at hrun
      exact nomatch (Prod.mk.inj hrun).1
    · rw [hsave] at hrun
      obtain ⟨named, hprogram, hlogs⟩ := exists_of_runSuite_ok hrun
      exact ⟨origin, suite, saved, named, hchosen, hsuite, by rwa [if_pos hsaving], hprogram, hlogs⟩
  · obtain ⟨named, hprogram, hlogs⟩ := exists_of_runSuite_ok hrun
    exact ⟨origin, suite, host, named, hchosen, hsuite, by rw [if_neg hsaving], hprogram, hlogs⟩

/-! ### What the summary is about -/

/-- The scripts of a suite are scheduled in their order, each as its file stands on the host. -/
theorem scheduled_eq (saved : Host) (config : Config) (suite : Suite) (program : Program) :
    let call (path : Path) := Run.Call.file (ready saved config suite) path
    (scheduled saved config suite program).queue =
        suite.scripts.filterMap (fun path ↦ (call path).job?) ∧
      (scheduled saved config suite program).skipped =
        suite.scripts.filterMap fun path ↦ (call path).skipped? := by
  intro call
  have hcalls : scheduled saved config suite program =
      (Schedule.empty program ⟨config.marks, some (config.logDirectoryFor suite.directory)⟩).callAll
        (suite.scripts.map call) := by
    rw [scheduled, scheduleOf, Schedule.callAll, List.foldl_map]
    rfl
  rw [hcalls, Schedule.callAll_eq]
  simp only [Schedule.empty, List.nil_append, List.filterMap_map]
  exact ⟨rfl, rfl⟩

/-- There is one report for each file that is a script, and what is skipped are the other files,
both in the order in which they were found. -/
theorem summary_carriedOut (saved : Host) (config : Config) (suite : Suite) (program : Program) :
    let load (path : Path) := Script.load (ready saved config suite) path
    let summary := (carriedOut saved config suite program).2.1
    summary.reports.map Report.path = suite.scripts.filter (fun path ↦ (load path).isOk) ∧
      summary.skipped = suite.scripts.filterMap fun path ↦
        match load path with
        | .ok _ => none
        | .error error => some (Schedule.skip path error) := by
  intro load summary
  obtain ⟨hqueue, hskipped⟩ := scheduled_eq saved config suite program
  refine ⟨?_, hskipped⟩
  have hpaths : summary.reports.map Report.path =
      (scheduled saved config suite program).queue.map Run.Job.path :=
    Schedule.map_path_runJobs _ _ _ _ _ _
  rw [hpaths, hqueue, List.map_filterMap, ← List.filterMap_eq_filter]
  exact List.filterMap_congr fun path _ ↦ (Run.Call.file _ path).map_path_job?

/-! ### Output for machines -/

/-- With the line about a configuration that was saved in front of it, nothing is a document. -/
theorem read?_savedOutput_append (origin : Origin) (rest : Text) :
    Json.read? (savedOutput origin ++ rest) = none := by
  obtain ⟨others, hothers⟩ : ∃ others, savedOutput origin ++ rest = 'S' :: others := ⟨_, rfl⟩
  rw [hothers]
  exact Json.read?_cons_eq_none rfl rfl (by decide) others

/-- For machines a run prints the summary as one document, which says one report for each script
that was found and one note for each file that is no script, in the order in which they were found.
The document is all that is printed unless the configuration is saved; then a line about that stands
before it, and the output as a whole is no document. The status is the one that the summary calls
for, which is the one of the same run for people. -/
theorem conduct_run_json (host : Host) (colored : Bool) (selection : Selection) (choices : Choices)
    (hjson : choices.json = true) :
    let ending := conduct host colored (.run selection choices)
    let other := { choices with json := false }
    let people := conduct host colored (.run selection other)
    ending.status ≠ .setupFailure →
      ∃ origin suite saved named, Starts host selection choices origin suite saved named ∧
        let load (path : Path) := Script.load (ready saved origin.config suite) path
        let summary := (carriedOut saved origin.config suite named.2).2.1
        let document := summary.toJson.render ++ ['\n']
        Json.read? document = some summary.toJson ∧
          ending.output = savingOutput choices origin ++ document ∧
          Json.read? ending.output = (if choices.saving then none else some summary.toJson) ∧
          summary.reports.map Report.path = suite.scripts.filter (fun path ↦ (load path).isOk) ∧
          summary.skipped = suite.scripts.filterMap (fun path ↦
            match load path with
            | .ok _ => none
            | .error error => some (Schedule.skip path error)) ∧
          ending.status = summary.exitStatus ∧ people.status = ending.status ∧
          people.host = ending.host ∧ people.output = savingOutput choices origin
            ++ Display.printed (linesOf colored other saved origin.config suite named) := by
  intro ending other people hstatus
  obtain ⟨origin, suite, saved, named, hstarts⟩ := exists_starts hstatus
  have hending : ending = _ := conduct_of_starts colored hstarts
  have hother : Starts host selection other origin suite saved named :=
    ⟨hstarts.chosen_eq, hstarts.suiteOf_eq, hstarts.saved_eq, hstarts.programOf_eq, hstarts.logs_eq⟩
  have hpeople : people = _ := conduct_of_starts colored hother
  obtain ⟨hreports, hskipped⟩ := summary_carriedOut saved origin.config suite named.2
  have hread := Json.read?_render (carriedOut saved origin.config suite named.2).2.1.toJson
  have houtput : ending.output = savingOutput choices origin
      ++ ((carriedOut saved origin.config suite named.2).2.1.toJson.render ++ ['\n']) := by
    rw [hending, linesOf, shownLines, if_pos hjson, Display.printed, List.flatMap_singleton]
  refine ⟨origin, suite, saved, named, hstarts, hread, houtput, ?_, hreports, hskipped, ?_, ?_, ?_,
    ?_⟩
  · rw [houtput, savingOutput]
    split_ifs
    · exact read?_savedOutput_append origin _
    · exact hread
  · rw [hending]
  · rw [hpeople, hending]
  · rw [hpeople, hending]
  · rw [hpeople]
    rfl

/-- A script that passes is run for machines. -/
theorem conduct_run_json_passed :
    let script : Tree := .file (Text.Utf8.encode "\"a\" : \"a\"\n".toList) false
    let host : Host := ⟨.directory [("work".toList, .directory [("x.test".toList, script)])],
      ["work".toList], [], none⟩
    let choices : Choices := ⟨some "echo".toList, true, .onFailure, false⟩
    let ending := conduct host false (.run ⟨none, none, none⟩ choices)
    ending.status = .success ∧ ∃ summary : Summary,
      Json.read? ending.output = some summary.toJson ∧ summary.exitStatus = .success := by
  intro script host choices ending
  have hstatus : ending.status = .success := by decide +kernel
  have hne : ending.status ≠ .setupFailure := by
    rw [hstatus]
    decide
  obtain ⟨_, _, _, _, _, _, _, hread, _, _, hsummary, _⟩ :=
    conduct_run_json host false ⟨none, none, none⟩ choices rfl hne
  exact ⟨hstatus, _, hread, hsummary.symm.trans hstatus⟩

/-- With the configuration saved, what is printed for machines is no document, although the run does
not fail to be set up. -/
theorem json_behind_saved_line :
    let words := ["run", "--json", "--save-config", "-p", "echo"].map String.toList
    let choices : Choices := ⟨some "echo".toList, true, .onFailure, true⟩
    let request : Request := .run ⟨none, none, none⟩ choices
    let script : Tree := .file (Text.Utf8.encode "\"a\" : \"a\"\n".toList) false
    let host : Host := ⟨.directory [("work".toList, .directory [("x.test".toList, script)])],
      ["work".toList], [], none⟩
    let ending := conduct host false request
    CommandLine.parse words = .request request false ∧ ending.status = .success ∧
      (Json.read? ending.output).isNone = true := by
  decide +kernel

end Session

end Dialogue
