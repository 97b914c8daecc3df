import Dialogue.Session

/-!
# The parts of a session

What each part of a session comes to when it is carried out: its result, and where the session
stands then. A part that fails ends the session where it stands (`Session.run_bind`).
-/

set_option autoImplicit false
set_option relaxedAutoImplicit false

namespace Dialogue.Session

variable {α β : Type}

/-- One part after another one, which is left out if the first one fails. -/
theorem run_bind (first : Act α) (next : α → Act β) (session : Session) :
    (first >>= next).run.run session =
      match first.run.run session with
      | (.ok result, after) => (next result).run.run after
      | (.error error, after) => (.error error, after) := by
  simp only [ExceptT.run_bind, StateT.run_bind]
  rcases first.run.run session with ⟨_ | _, after⟩ <;> rfl

theorem run_take (result : Except SetupError α) (session : Session) :
    (take result).run.run session = (result, session) := rfl

theorem run_get (session : Session) :
    (get : Act Session).run.run session = (.ok session, session) := rfl

theorem run_modify (change : Session → Session) (session : Session) :
    (modify change : Act Unit).run.run session = (.ok (), change session) := rfl

theorem run_pure (result : α) (session : Session) :
    (pure result : Act α).run.run session = (.ok result, session) := rfl

/-- The configuration that is found, with what was chosen otherwise. -/
def chosen (host : Host) (selection : Selection) (program : Option Text) :
    Except SetupError Origin :=
  (originOf host selection.config).map fun origin ↦
    { origin with config := origin.config.withOverrides ⟨program, none, selection.pattern⟩ }

theorem run_configure (selection : Selection) (program : Option Text) (session : Session) :
    (configure selection program).run.run session =
      match chosen session.host selection program with
      | .ok origin => (.ok origin, { session with marks := origin.config.marks })
      | .error error => (.error error, session) := by
  rw [configure, chosen]
  simp only [run_bind, run_get, run_take]
  rcases originOf session.host selection.config with error | origin <;> rfl

theorem run_select (origin : Origin) (given : Option Path) (session : Session) :
    (select origin given).run.run session = (suiteOf session.host origin given, session) := rfl

theorem run_save (origin : Origin) (given : Option Path) (session : Session) :
    (save origin given).run.run session =
      match (savedConfig session.host origin.config given).save session.host origin.target with
      | .ok host =>
        let line := "Saved config to ".toList ++ origin.target.text
        (.ok (), { session with
          host := host
          output := session.output ++ Display.printed [line] })
      | .error error => (.error error, session) := by
  rw [save]
  simp only [run_bind, run_get, run_take]
  rcases (savedConfig session.host origin.config given).save session.host origin.target with
    error | host <;> rfl

theorem run_setUp (config : Config) (suite : Suite) (session : Session) :
    (setUp config suite).run.run session =
      match programOf session.host config with
      | .error error => (.error error, session)
      | .ok named =>
        let logs := config.logDirectoryFor suite.directory
        let attempt := session.host.attemptDirectories logs
        (match attempt.1 with
          | .ok () => .ok named
          | .error error => .error (.noLogDirectory logs error),
          { session with host := attempt.2 }) := by
  rw [setUp]
  simp only [run_bind, run_get, run_take, run_modify, run_pure]
  rcases programOf session.host config with error | named
  · rfl
  · rcases session.host.attemptDirectories (config.logDirectoryFor suite.directory) with
      ⟨error | done, host⟩ <;> rfl

/-- Once a suite is set up, nothing goes wrong with the session any more. -/
theorem run_runSuite (config : Config) (suite : Suite) (choices : Choices) (session : Session) :
    (runSuite config suite choices).run.run session =
      match (setUp config suite).run.run session with
      | (.error error, after) => (.error error, after)
      | (.ok (name, program), after) =>
        let schedule := scheduleOf after.host config suite program
        let (events, summary, host) := schedule.run after.host
        let display := { Display.standard with
          transcripts := choices.transcripts
          colored := after.colored
          marks := config.marks }
        let lines := shownLines display choices name schedule.queue.length events summary
        (.ok summary.exitStatus, { after with
          host := host
          output := after.output ++ Display.printed lines }) := by
  rw [runSuite, run_bind]
  rcases (setUp config suite).run.run session with ⟨error | ⟨name, program⟩, after⟩ <;> rfl

/-- The configuration is found, then the scripts, then the configuration is saved if that was asked
for, and then the scripts are run. -/
theorem run_run (selection : Selection) (choices : Choices) (session : Session) :
    (run selection choices).run.run session =
      match chosen session.host selection choices.program with
      | .error error => (.error error, session)
      | .ok origin =>
        let configured := { session with marks := origin.config.marks }
        match suiteOf session.host origin selection.path with
        | .error error => (.error error, configured)
        | .ok suite =>
          if choices.saving then
            match (save origin selection.path).run.run configured with
            | (.error error, after) => (.error error, after)
            | (.ok (), saved) => (runSuite origin.config suite choices).run.run saved
          else (runSuite origin.config suite choices).run.run configured := by
  rw [run]
  simp only [run_bind, run_configure, run_select]
  rcases chosen session.host selection choices.program with error | origin
  · rfl
  dsimp only
  rcases suiteOf session.host origin selection.path with error | suite
  · rfl
  dsimp only
  by_cases hsaving : choices.saving = true
  · rw [if_pos hsaving, if_pos hsaving, run_bind]
    rcases (save origin selection.path).run.run { session with marks := origin.config.marks } with
      ⟨error | done, after⟩ <;> rfl
  · rw [if_neg hsaving, if_neg hsaving]

end Dialogue.Session
