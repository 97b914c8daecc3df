import Dialogue.Proofs.Files.Contents
import Dialogue.Proofs.Session.Parts
import Mathlib

/-!
# When setting up fails

A session that runs scripts sets up step by step, and the first step that fails ends it. No script
is run then: nothing is printed about one, and no log is written. All files are as they were too
(`Host.SameFiles`), unless the configuration was to be saved. That is done as soon as scripts are
found (`Session.Saves`), so it stays done if there turns out to be no program, or no place for the
logs (`Session.Unready`), and then the file of the configuration is the only one that has changed
(`Session.conduct_run_setupFailure`).
-/

set_option autoImplicit false
set_option relaxedAutoImplicit false

namespace Dialogue

theorem eq_ok_of_mapError {ε δ α : Type} {change : ε → δ} {result : Except ε α} {value : α}
    (h : result.mapError change = .ok value) : result = .ok value := by
  cases result with
  | error error => contradiction
  | ok other => exact congrArg Except.ok (Except.ok.inj h)

namespace Config

variable {config : Config} {host saved : Host} {path : Path}

/-- A configuration is saved by writing its text, after the directories above have been made. -/
theorem exists_writeText_of_save (h : config.save host path = .ok saved) :
    ∃ made : Host, (made = host ∨ ∃ parent, host.makeDirectories parent = .ok made) ∧
      made.writeText path config.render = .ok saved := by
  have hwritten := eq_ok_of_mapError h
  rcases hparent : path.parent? with _ | parent
  · rw [hparent] at hwritten
    exact ⟨host, .inl rfl, hwritten⟩
  · rw [hparent] at hwritten
    rcases hmade : host.makeDirectories parent with failure | made
    · simp [hmade, bind, Except.bind] at hwritten
    · simp only [hmade, bind, Except.bind] at hwritten
      exact ⟨made, .inr ⟨parent, hmade⟩, hwritten⟩

/-- A configuration that is saved is what its file holds afterwards, and the other files hold what
they held. -/
theorem exists_of_save (h : config.save host path = .ok saved) :
    ∃ place executable, saved.resolve path = .ok place ∧
      saved.fileAt? place = some (Text.Utf8.encode config.render, executable) ∧
      ∀ other, other ≠ place → saved.fileAt? other = host.fileAt? other := by
  obtain ⟨made, hmade, hwrite⟩ := exists_writeText_of_save h
  have hsame : host.SameFiles made := by
    rcases hmade with rfl | ⟨parent, hmade⟩
    · exact .refl made
    · exact Host.sameFiles_makeDirectories hmade
  obtain ⟨place, executable, hresolve, hfile, hother⟩ := Host.exists_of_writeText hwrite
  exact ⟨place, executable, hresolve, hfile, fun other hne ↦ (hother other hne).trans (hsame other)⟩

end Config

namespace Session

variable {host : Host} {session after : Session} {selection : Selection} {choices : Choices}
  {config : Config} {suite : Suite} {error : SetupError}

/-- The configuration is saved: that was asked for, scripts were found, and the file was written. -/
structure Saves (host : Host) (selection : Selection) (choices : Choices) (origin : Origin)
    (suite : Suite) (saved : Host) : Prop where
  asked : choices.saving = true
  chosen_eq : chosen host selection choices.program = .ok origin
  suiteOf_eq : suiteOf host origin selection.path = .ok suite
  save_eq : (savedConfig host origin.config selection.path).save host origin.target = .ok saved

/-- The scripts of a suite cannot be run: there is no program, or no directory for the logs. -/
def Unready (host : Host) (config : Config) (suite : Suite) : Prop :=
  (∃ error, programOf host config = .error error) ∨
    ∃ error, (host.attemptDirectories (config.logDirectoryFor suite.directory)).1 = .error error

/-- What is printed about a configuration that was saved. -/
def savedOutput (origin : Origin) : Text :=
  Display.printed ["Saved config to ".toList ++ origin.target.text]

/-! ### Failures of the parts -/

/-- A suite that cannot be set up changes no file and prints nothing. -/
theorem setUp_error (h : (setUp config suite).run.run session = (.error error, after)) :
    Unready session.host config suite ∧ after.output = session.output ∧
      session.host.SameFiles after.host := by
  rw [run_setUp] at h
  rcases hprogram : programOf session.host config with failure | named
  · rw [hprogram] at h
    obtain ⟨-, rfl⟩ := Prod.mk.inj h
    exact ⟨.inl ⟨failure, hprogram⟩, rfl, .refl _⟩
  · rw [hprogram] at h
    obtain ⟨hresult, rfl⟩ := Prod.mk.inj h
    refine ⟨.inr ?_, rfl, session.host.sameFiles_attemptDirectories _⟩
    split at hresult
    · contradiction
    · next failure hfailure => exact ⟨failure, hfailure⟩

/-- A suite that is not ready cannot be set up. -/
theorem exists_setUp_error (session : Session) (h : Unready session.host config suite) :
    ∃ error after, (setUp config suite).run.run session = (.error error, after) := by
  rw [run_setUp]
  rcases hprogram : programOf session.host config with failure | named
  · exact ⟨failure, session, rfl⟩
  · obtain ⟨failure, hfailure⟩ := h.resolve_left fun ⟨failure, hfailure⟩ ↦
      nomatch hprogram.symm.trans hfailure
    dsimp only
    rw [hfailure]
    exact ⟨_, _, rfl⟩

theorem runSuite_error_iff :
    (runSuite config suite choices).run.run session = (.error error, after) ↔
      (setUp config suite).run.run session = (.error error, after) := by
  rw [run_runSuite]
  rcases (setUp config suite).run.run session with ⟨failure | ⟨name, program⟩, stand⟩
  · dsimp only
    exact ⟨fun h ↦ by cases h; rfl, fun h ↦ by cases h; rfl⟩
  · exact ⟨fun h ↦ absurd (Prod.mk.inj h).1 (by simp), fun h ↦ absurd (Prod.mk.inj h).1 (by simp)⟩

theorem exitStatus_ne_setupFailure (summary : Summary) : summary.exitStatus ≠ .setupFailure := by
  rw [Summary.exitStatus]
  split_ifs <;> decide

theorem runSuite_ok_ne {status : ExitStatus}
    (h : (runSuite config suite choices).run.run session = (.ok status, after)) :
    status ≠ .setupFailure := by
  rw [run_runSuite] at h
  split at h
  · exact nomatch (Prod.mk.inj h).1
  · obtain rfl := Except.ok.inj (Prod.mk.inj h).1
    exact exitStatus_ne_setupFailure _

/-! ### Failures of a run -/

/-- If a run fails, no file has changed, unless the configuration was saved and the scripts that
were found cannot be run. -/
theorem run_error (h : (run selection choices).run.run session = (.error error, after)) :
    (after.output = session.output ∧ session.host.SameFiles after.host) ∨
      ∃ origin suite saved, Saves session.host selection choices origin suite saved ∧
        Unready saved origin.config suite := by
  rw [run_run] at h
  rcases hchosen : chosen session.host selection choices.program with failure | origin
  · rw [hchosen] at h
    obtain ⟨-, rfl⟩ := Prod.mk.inj h
    exact .inl ⟨rfl, .refl _⟩
  rw [hchosen] at h
  dsimp only at h
  rcases hsuite : suiteOf session.host origin selection.path with failure | suite
  · rw [hsuite] at h
    obtain ⟨-, rfl⟩ := Prod.mk.inj h
    exact .inl ⟨rfl, .refl _⟩
  rw [hsuite] at h
  dsimp only at h
  split_ifs at h with hsaving
  · rw [run_save] at h
    dsimp only at h
    rcases hsave : (savedConfig session.host origin.config selection.path).save session.host
        origin.target with failure | saved
    · rw [hsave] at h
      obtain ⟨-, rfl⟩ := Prod.mk.inj h
      exact .inl ⟨rfl, .refl _⟩
    · rw [hsave] at h
      obtain ⟨hunready, -⟩ := setUp_error (runSuite_error_iff.mp h)
      exact .inr ⟨origin, suite, saved, ⟨hsaving, hchosen, hsuite, hsave⟩, hunready⟩
  · exact .inl (setUp_error (runSuite_error_iff.mp h)).2

/-- Once the configuration is saved, a run fails all the same if the scripts cannot be run. -/
theorem exists_run_error (session : Session) {origin : Origin} {saved : Host}
    (h : Saves session.host selection choices origin suite saved)
    (hunready : Unready saved origin.config suite) :
    ∃ error after, (run selection choices).run.run session = (.error error, after) ∧
      after.output = session.output ++ savedOutput origin ∧ saved.SameFiles after.host := by
  rw [run_run, h.chosen_eq]
  dsimp only
  rw [h.suiteOf_eq]
  dsimp only
  rw [if_pos h.asked, run_save]
  dsimp only
  rw [h.save_eq]
  obtain ⟨error, after, hsetUp⟩ := exists_setUp_error ⟨saved, _, _, _⟩ hunready
  obtain ⟨-, houtput, hsame⟩ := setUp_error hsetUp
  exact ⟨error, after, runSuite_error_iff.mpr hsetUp, houtput, hsame⟩

/-- A run that does not fail has a status of its own. -/
theorem run_ok_ne {status : ExitStatus}
    (h : (run selection choices).run.run session = (.ok status, after)) :
    status ≠ .setupFailure := by
  rw [run_run] at h
  split at h
  · exact nomatch (Prod.mk.inj h).1
  dsimp only at h
  split at h
  · exact nomatch (Prod.mk.inj h).1
  split_ifs at h
  · split at h
    · exact nomatch (Prod.mk.inj h).1
    · exact runSuite_ok_ne h
  · exact runSuite_ok_ne h

/-! ### Whole sessions -/

variable {colored : Bool}

theorem conduct_of_run_error
    (h : (run selection choices).run.run (start host colored) = (.error error, after)) :
    conduct host colored (.run selection choices) =
      ⟨after.host, after.output, some (complaintLine after.marks error), .setupFailure⟩ := by
  rw [conduct, perform, h]

theorem exists_run_error_of_status
    (h : (conduct host colored (.run selection choices)).status = .setupFailure) :
    ∃ error after,
      (run selection choices).run.run (start host colored) = (.error error, after) := by
  rcases hrun : (run selection choices).run.run (start host colored) with ⟨error | status, after⟩
  · exact ⟨error, after, rfl⟩
  · rw [conduct, perform, hrun] at h
    exact absurd h (run_ok_ne hrun)

/-- If setting up fails, no script is run, and no file is changed unless the configuration is saved
before. The scripts that were found cannot be run then. The other way round, scripts that cannot be
run end the session after the configuration was saved, which leaves it in its file and changes no
other one. -/
theorem conduct_run_setupFailure (host : Host) (colored : Bool) (selection : Selection)
    (choices : Choices) :
    let ending := conduct host colored (.run selection choices)
    (ending.status = .setupFailure →
        (ending.output = [] ∧ host.SameFiles ending.host) ∨
          ∃ origin suite saved, Saves host selection choices origin suite saved ∧
            Unready saved origin.config suite) ∧
      ∀ origin suite saved, Saves host selection choices origin suite saved →
        Unready saved origin.config suite →
          ending.status = .setupFailure ∧ ending.output = savedOutput origin ∧
            ∃ place executable, saved.resolve origin.target = .ok place ∧
              ending.host.fileAt? place = some (Text.Utf8.encode
                (savedConfig host origin.config selection.path).render, executable) ∧
              ∀ other, other ≠ place → ending.host.fileAt? other = host.fileAt? other := by
  intro ending
  refine ⟨fun hstatus ↦ ?_, fun origin suite saved hsaves hunready ↦ ?_⟩
  · obtain ⟨error, after, hrun⟩ := exists_run_error_of_status hstatus
    have hending : ending = _ := conduct_of_run_error hrun
    rw [hending]
    exact run_error hrun
  · obtain ⟨error, after, hrun, houtput, hsame⟩ :=
      exists_run_error (start host colored) hsaves hunready
    have hending : ending = _ := conduct_of_run_error hrun
    obtain ⟨place, executable, hresolve, hfile, hother⟩ := Config.exists_of_save hsaves.save_eq
    rw [hending]
    exact ⟨rfl, houtput, place, executable, hresolve, (hsame place).trans hfile,
      fun other hne ↦ (hsame other).trans (hother other hne)⟩

/-- A suite is found and the configuration is saved, and then there is no program. -/
theorem conduct_run_without_program :
    let host : Host := ⟨.directory [("work".toList, .directory [("suite".toList,
      .directory [("x.test".toList, .file [] false)])])], ["work".toList], [], none⟩
    let selection : Selection := ⟨some (.ofString "suite"), none, none⟩
    let choices : Choices := ⟨none, false, .onFailure, true⟩
    let ending := conduct host false (.run selection choices)
    ending.status = .setupFailure ∧ ending.output = "Saved config to .lockstep.yaml\n".toList ∧
      ∀ other, other ≠ ["work".toList, ".lockstep.yaml".toList] →
        ending.host.fileAt? other = host.fileAt? other := by
  intro host selection choices ending
  have hsuite : suiteOf host ⟨.standard, none, none⟩ selection.path =
      .ok ⟨.ofString "suite", [.ofString "suite/x.test"]⟩ := by
    simp only [host, selection]
    cbv
  obtain ⟨hstatus, houtput, place, executable, hresolve, -, hother⟩ :=
    (conduct_run_setupFailure host false selection choices).2 _ _ _ ⟨rfl, rfl, hsuite, rfl⟩
      (.inl ⟨.noProgram, rfl⟩)
  obtain rfl : ["work".toList, ".lockstep.yaml".toList] = place := Except.ok.inj hresolve
  exact ⟨hstatus, houtput, hother⟩

/-- A session with a program that is neither known nor found has saved its configuration when it
ends. -/
theorem config_saved_without_program :
    let words := ["run", "x.test", "--save-config", "-p", "no-such-program"].map String.toList
    let request : Request := .run ⟨some (.ofString "x.test"), none, none⟩
      ⟨some "no-such-program".toList, false, .onFailure, true⟩
    let script : Tree := .file (Text.Utf8.encode "\"a\" : \"a\"\n".toList) false
    let host : Host := ⟨.directory [("work".toList, .directory [("x.test".toList, script)])],
      ["work".toList], [], none⟩
    let ending := conduct host false request
    let place := ["work".toList, ".lockstep.yaml".toList]
    CommandLine.parse words = .request request false ∧ ending.status = .setupFailure ∧
      host.fileAt? place = none ∧ (ending.host.fileAt? place).isSome = true := by
  decide +kernel

end Session

end Dialogue
