import Dialogue.Proofs.Console.Request
import Dialogue.Run.Log

/-!
# The verdict on a run

Three things can go wrong in a run: the channel refuses a request, the program ends with a fault, or
something is left of the script. `Run.record` is everything that is asked of the channel in a run,
from the opening note on, through whatever the program does, to what goes out when it has ended. The
first refusal in that record decides, whatever the program made of it; without one its fault
decides, and without a fault what is left (`judge_of_refusal`, `judge_of_fault`,
`judge_of_unfinished`, `judge_of_finished`). `outcome_of_record` is the verdict on every program.

What the outcome says of a deviation or a fault is laid down by `Outcome.Tells` and
`Outcome.TellsFault`, kind by kind and word by word. A fault that stands for a deviation is told as
that deviation, and only a mismatch tells what was expected and what came.
-/

set_option autoImplicit false
set_option relaxedAutoImplicit false

namespace Dialogue

/-! ### What an outcome tells -/

namespace Outcome

/-- An outcome is a failure of some kind, with a message and without two outputs to compare. -/
def FailsWith (outcome : Outcome) (kind : FailureKind) (message : Text) : Prop :=
  outcome = .failed { kind := kind, message := message, expected := none, actual := none }

/-- An outcome tells of a deviation from the script. -/
def Tells (outcome : Outcome) : Deviation → Prop
  | .violation violation =>
    outcome.FailsWith .protocolViolation ("protocol violation: ".toList ++ violation.message)
  | .mismatch expected actual =>
    outcome = .failed
      { kind := .expectationMismatch
        message := "expected: ".toList ++ expected ++ ", actual: ".toList ++ actual
        expected := some expected
        actual := some actual }
  | .incomplete pending => outcome.FailsWith .incompleteRun pending.message

/-- An outcome tells of a fault. What stands for a deviation is told as one. -/
def TellsFault (outcome : Outcome) : Fault → Prop
  | .deviation deviation | .transfer (.deviation deviation) => outcome.Tells deviation
  | .transfer (.other description) =>
    outcome.FailsWith .runtimeFault ("I/O error: ".toList ++ description)
  | .panic text => outcome.FailsWith .runtimeFault ("program panicked: ".toList ++ text)
  | .silence limit =>
    outcome.FailsWith .runtimeFault ("program produced no output within ".toList ++ limit.text)
  | .lingering limit =>
    outcome.FailsWith .runtimeFault
      ("program did not exit within ".toList ++ limit.text ++ " of the end of its script".toList)
  | .reported text => outcome.FailsWith .runtimeFault text

theorem tells_ofDeviation (deviation : Deviation) :
    (failed (.ofDeviation deviation)).Tells deviation := by
  cases deviation <;> rfl

theorem tellsFault_ofFault (fault : Fault) : (failed (.ofFault fault)).TellsFault fault := by
  cases fault with
  | deviation deviation => exact tells_ofDeviation deviation
  | transfer error =>
    cases error with
    | deviation deviation => exact tells_ofDeviation deviation
    | other => rfl
  | panic => rfl
  | silence => rfl
  | lingering => rfl
  | reported => rfl

end Outcome

namespace Run

open Channel

/-! ### The record of a run -/

/-- The requests of a run of a program. -/
def requests (behaviour : Behaviour) (script : Script) (marks : Marks) (name : Text) :
    List Channel.Request :=
  let console := Console.opened (openChannel script marks name)
  .note (openingLine marks name) ::
    (behaviour.requests console ++ (behaviour.run console).2.allRequests)

/-- The exchanges of a run of a program. -/
def record (behaviour : Behaviour) (script : Script) (marks : Marks) (name : Text) :
    List Channel.Exchange :=
  (start script marks).exchanges (requests behaviour script marks name)

/-- The channel of a run is the one that its requests leave. -/
theorem serveAll_requests (behaviour : Behaviour) (script : Script) (marks : Marks) (name : Text) :
    (start script marks).serveAll (requests behaviour script marks name) =
      (behaviour.run (Console.opened (openChannel script marks name))).2.emitAll.2.channel := by
  have hrun := behaviour.serveAll_requests (Console.opened (openChannel script marks name))
  rw [requests, serveAll_cons, serveAll_append]
  change ((Console.opened (openChannel script marks name)).channel.serveAll _).serveAll _ = _
  rw [hrun]
  exact (Console.makes_emitAll _).after_eq

/-- The exchanges of a run are a record of the script up to where the run ends. -/
theorem recorded_finalState (program : Text) (behaviour : List Text → Behaviour) (script : Script)
    (marks : Marks) (name : Text) :
    Recorded script marks (record (behaviour script.argumentList) script marks name)
      (finalState (Program.ofBehaviour program behaviour) script marks name).2 := by
  have h := recorded_serveAll script marks
    (requests (behaviour script.argumentList) script marks name)
  rw [serveAll_requests] at h
  exact h

/-! ### Judging a record -/

/-- A program that ends by itself is the only one without a fault. -/
theorem faultOf?_eq_none_iff {ending : Ending} : faultOf? ending = none ↔ ending = .returned := by
  cases ending <;> simp [faultOf?]

/-- Judging a run changes nothing but the record, and that only if nothing was recorded before. -/
theorem judge_snd (ending : Ending) (channel : Channel) :
    (judge ending channel).2 = channel ∨
      channel.failure = none ∧
        ∃ deviation, (judge ending channel).2 = { channel with failure := some deviation } := by
  unfold judge
  split
  · exact .inl rfl
  · next hfailure =>
    split
    · exact .inl rfl
    · have htransition := transition_serve channel .finish
      simp only [serve] at htransition
      rcases hfinish : channel.finish with ⟨_ | _, after⟩
      · rw [hfinish] at htransition
        cases htransition with
        | repeated => exact .inl rfl
        | refused => exact .inr ⟨hfailure, _, rfl⟩
      · rw [hfinish] at htransition
        cases htransition
        exact .inl rfl

theorem outputsMatched_judge (ending : Ending) (channel : Channel) :
    (judge ending channel).2.outputsMatched = channel.outputsMatched := by
  obtain heq | ⟨-, deviation, heq⟩ := judge_snd ending channel <;> rw [heq]

theorem transcript_judge (ending : Ending) (channel : Channel) :
    (judge ending channel).2.transcript = channel.transcript := by
  obtain heq | ⟨-, deviation, heq⟩ := judge_snd ending channel <;> rw [heq]

section Judge

variable {script : Script} {marks : Marks} {exchanges : List Channel.Exchange} {channel : Channel}
  {ending : Ending}

/-- The first refusal decides, however the program ended. -/
theorem judge_of_refusal {deviation : Deviation}
    (h : Recorded script marks exchanges channel)
    (hfirst : firstRefusal? exchanges = some deviation) :
    (judge ending channel).1 = .failed (.ofDeviation deviation) := by
  have hfailure := h.failure.trans hfirst
  simp only [judge, hfailure]

/-- Without a refusal the fault of the program decides. -/
theorem judge_of_fault {fault : Fault} (h : Recorded script marks exchanges channel)
    (hfirst : firstRefusal? exchanges = none) (hfault : faultOf? ending = some fault) :
    (judge ending channel).1 = .failed (.ofFault fault) := by
  have hfailure := h.failure.trans hfirst
  simp only [judge, hfailure, hfault]

/-- Without a refusal and a fault the run passes if the terminator was read. -/
theorem judge_of_finished (h : Recorded script marks exchanges channel)
    (hfirst : firstRefusal? exchanges = none) (hended : ending = .returned)
    (hterminator : ∃ exchange ∈ exchanges, exchange.isTerminator = true) :
    (judge ending channel).1 = .passed := by
  have hfailure := h.failure.trans hfirst
  have hturn := h.inStep.turn_eq_drained_iff.mpr (h.terminatorSent_iff.mpr hterminator)
  simp only [judge, finish, hfailure, hended, faultOf?, hturn, if_true]

/-- Without a refusal and a fault the run fails if the terminator was not read, and what is left are
the steps behind the events of the run. -/
theorem judge_of_unfinished (h : Recorded script marks exchanges channel)
    (hfirst : firstRefusal? exchanges = none) (hended : ending = .returned)
    (hterminator : ¬ ∃ exchange ∈ exchanges, exchange.isTerminator = true) :
    (judge ending channel).1 = .failed (.ofDeviation (.incomplete
      { inputs := (script.steps.drop (events exchanges).length).countP Step.isInput
        outputs := (script.steps.drop (events exchanges).length).countP Step.isExpect
        terminator := true })) := by
  have hfailure := h.failure.trans hfirst
  rw [← h.terminatorSent_iff, Bool.not_eq_true] at hterminator
  have hturn : channel.turn ≠ .drained := by
    rw [Ne, h.inStep.turn_eq_drained_iff, hterminator]
    decide
  have hpending : channel.pending =
      { inputs := (script.steps.drop (events exchanges).length).countP Step.isInput
        outputs := (script.steps.drop (events exchanges).length).countP Step.isExpect
        terminator := true } := by
    have hinputs := h.inStep.inputsRead_add
    have houtputs := h.inStep.outputsMatched_add
    rw [pending, h.inStep.inputTotal_eq, h.inStep.outputTotal_eq, h.length_events, hterminator,
      ← hinputs, ← houtputs, Nat.add_sub_cancel_left, Nat.add_sub_cancel_left]
    rfl
  simp only [judge, finish, hfailure, hended, faultOf?, hturn, if_false, hpending, fail]

/-- A run whose terminator was read has no step left. -/
theorem drop_length_events_eq_nil (h : Recorded script marks exchanges channel)
    (hterminator : ∃ exchange ∈ exchanges, exchange.isTerminator = true) :
    script.steps.drop (events exchanges).length = [] := by
  have hall := h.inStep.terminatorSent (h.terminatorSent_iff.mpr hterminator)
  exact List.drop_eq_nil_of_le (Nat.le_of_eq (h.length_events.trans hall).symm)

/-- A run passes in one of the four cases only. -/
theorem judge_eq_passed_iff (h : Recorded script marks exchanges channel) :
    (judge ending channel).1 = .passed ↔
      ending = .returned ∧ firstRefusal? exchanges = none ∧
        script.steps.drop (events exchanges).length = [] ∧
        ∃ exchange ∈ exchanges, exchange.isTerminator = true := by
  constructor
  · intro hpass
    rcases hfirst : firstRefusal? exchanges with _ | deviation
    · rcases hfault : faultOf? ending with _ | fault
      · have hended := faultOf?_eq_none_iff.mp hfault
        by_cases hterminator : ∃ exchange ∈ exchanges, exchange.isTerminator = true
        · exact ⟨hended, rfl, drop_length_events_eq_nil h hterminator, hterminator⟩
        · rw [judge_of_unfinished h hfirst hended hterminator] at hpass
          contradiction
      · rw [judge_of_fault h hfirst hfault] at hpass
        contradiction
    · rw [judge_of_refusal h hfirst] at hpass
      contradiction
  · rintro ⟨hended, hfirst, -, hterminator⟩
    exact judge_of_finished h hfirst hended hterminator

end Judge

/-! ### The report of a run -/

/-- A report but for where its transcript was stored. -/
def withoutLog (report : Report) : Report :=
  { report with logPath := none }

/-- Storing the transcript changes nothing else in a report. -/
theorem withoutLog_withLog (host : Host) (options : Options) (report : Report) :
    withoutLog (withLog host options report).1 = withoutLog report := by
  unfold withLog
  split
  · rfl
  · dsimp only
    split <;> rfl

theorem withoutLog_logged (host : Host) (program : Program) (path : Path) (script : Script)
    (options : Options) :
    withoutLog (logged host program path script options).1 =
      Run.script program path script options.marks := by
  rw [logged, withoutLog_withLog]
  rfl

/-- The outcome in a report is that of judging the run, and the outputs are those of the script. -/
theorem logged_fst (host : Host) (program : Program) (path : Path) (script : Script)
    (options : Options) :
    let final := finalState program script options.marks path.displayName
    let report := (logged host program path script options).1
    report.outcome = (judge final.1 final.2).1 ∧ report.outputs = script.outputCount ∧
      report.outputsMatched = final.2.outputsMatched := by
  intro final report
  have hreport := withoutLog_logged host program path script options
  rcases houtcome : judge final.1 final.2 with ⟨outcome, after⟩
  have hmatched := outputsMatched_judge final.1 final.2
  rw [houtcome] at hmatched
  have hscript : (Run.script program path script options.marks).outcome = outcome ∧
      (Run.script program path script options.marks).outputsMatched = after.outputsMatched := by
    simp only [Run.script, final] at houtcome ⊢
    rw [houtcome]
    rcases outcome with _ | failure <;> exact ⟨rfl, rfl⟩
  exact ⟨(congrArg Report.outcome hreport).trans hscript.1, congrArg Report.outputs hreport,
    (congrArg Report.outputsMatched hreport).trans (hscript.2.trans hmatched)⟩

/-- A run is judged to have passed only if the program ended by itself, nothing was refused and the
script is done with. Judging it then changes nothing. -/
theorem judge_of_passed {ending : Ending} {channel : Channel}
    (h : (judge ending channel).1 = .passed) :
    ending = .returned ∧ channel.failure = none ∧ channel.turn = .drained ∧
      judge ending channel = (.passed, channel) := by
  revert h
  unfold judge
  split
  · intro h
    contradiction
  · next hfailure =>
    split
    · intro h
      contradiction
    · next hfault =>
      unfold finish
      rw [hfailure]
      dsimp only
      split_ifs with hturn
      · exact fun _ ↦ ⟨faultOf?_eq_none_iff.mp hfault, rfl, hturn, rfl⟩
      · intro h
        contradiction

/-- The transcript in the report on a run that passes is that of the channel. -/
theorem logged_of_passed {host : Host} {program : Program} {path : Path} {script : Script}
    {options : Options} (h : (logged host program path script options).1.outcome = .passed) :
    let final := finalState program script options.marks path.displayName
    final.1 = .returned ∧ final.2.failure = none ∧ final.2.turn = .drained ∧
      (logged host program path script options).1.transcript = final.2.transcript := by
  intro final
  obtain ⟨houtcome, -, -⟩ := logged_fst host program path script options
  obtain ⟨hended, hfailure, hturn, hjudge⟩ := judge_of_passed (houtcome.symm.trans h)
  refine ⟨hended, hfailure, hturn, ?_⟩
  refine (congrArg Report.transcript (withoutLog_logged host program path script options)).trans ?_
  simp only [Run.script, hjudge]
  rfl

/-- The verdict on a run, whatever the program does. The run passes exactly if the program ended by
itself, nothing was refused, no step is left and the terminator was read. Otherwise the outcome
tells of the first refusal; if there is none, of the fault or the panic that the program ended with;
if there is none either, it says how many steps are left. No more outputs are matched than the
script expects, and all of them in a run that passes. -/
theorem outcome_of_record (host : Host) (name : Text) (behaviour : List Text → Behaviour)
    (path : Path) (script : Script) (options : Options) :
    let program := Program.ofBehaviour name behaviour
    let report := (logged host program path script options).1
    let ending := (finalState program script options.marks path.displayName).1
    let exchanges := record (behaviour script.argumentList) script options.marks path.displayName
    let left := script.steps.drop (events exchanges).length
    (report.outcome = .passed ↔
        ending = .returned ∧ firstRefusal? exchanges = none ∧ left = [] ∧
          ∃ exchange ∈ exchanges, exchange.isTerminator = true) ∧
      (∀ deviation, firstRefusal? exchanges = some deviation → report.outcome.Tells deviation) ∧
      (∀ fault, firstRefusal? exchanges = none → ending = .faulted fault →
        report.outcome.TellsFault fault) ∧
      (∀ message, firstRefusal? exchanges = none → ending = .panicked message →
        report.outcome = .failed
          { kind := .runtimeFault
            message :=
              "program panicked: ".toList ++ message.getD "unknown panic payload".toList
            expected := none
            actual := none }) ∧
      (firstRefusal? exchanges = none → ending = .returned →
        (left ≠ [] ∨ ∀ exchange ∈ exchanges, exchange.isTerminator = false) →
          report.outcome = .failed
            { kind := .incompleteRun
              message := Pending.message ⟨left.countP Step.isInput, left.countP Step.isExpect, true⟩
              expected := none
              actual := none }) ∧
      report.outputsMatched ≤ report.outputs ∧
      (report.outcome = .passed → report.outputsMatched = report.outputs) := by
  intro program report ending exchanges left
  have h := recorded_finalState name behaviour script options.marks path.displayName
  obtain ⟨houtcome, houtputs, hmatched⟩ := logged_fst host program path script options
  change report.outcome = _ at houtcome
  change report.outputs = _ at houtputs
  change report.outputsMatched = _ at hmatched
  have hpassed : report.outcome = .passed ↔ _ := houtcome ▸ judge_eq_passed_iff h
  refine ⟨hpassed, fun deviation hfirst ↦ ?_, fun fault hfirst hended ↦ ?_,
    fun message hfirst hended ↦ ?_,
    fun hfirst hended hunfinished ↦ houtcome.trans (judge_of_unfinished h hfirst hended ?_), ?_,
    fun hpass ↦ ?_⟩
  · rw [houtcome, judge_of_refusal h hfirst]
    exact Outcome.tells_ofDeviation deviation
  · rw [houtcome, judge_of_fault h hfirst (congrArg faultOf? hended)]
    exact Outcome.tellsFault_ofFault fault
  · rw [houtcome, judge_of_fault h hfirst (congrArg faultOf? hended)]
    exact Outcome.tellsFault_ofFault (.panic _)
  · intro hterminator
    rcases hunfinished with hsome | hnone
    · exact hsome (drop_length_events_eq_nil h hterminator)
    · obtain ⟨exchange, hmem, htrue⟩ := hterminator
      rw [hnone exchange hmem] at htrue
      contradiction
  · rw [hmatched, houtputs]
    exact Nat.le.intro h.inStep.outputsMatched_add
  · have hnone : left = [] := (hpassed.mp hpass).2.2.1
    have hadd := h.inStep.outputsMatched_add
    rw [← h.length_events] at hadd
    change _ + left.countP Step.isExpect = _ at hadd
    rw [hnone] at hadd
    rw [hmatched, houtputs]
    exact hadd

/-- A program that reads its line and then says the right thing, the wrong one or nothing, and ends
well, with a fault or in a panic. A mismatch that it passes over is told although it panics later. -/
theorem outcome_of_record_line_and_answer :
    let script : Script :=
      ⟨none, [.input "x".toList, .expect "a".toList .exact], List.cons_ne_nil _ _⟩
    let read : Behaviour.Command := .act .read true
    let say := fun text : String ↦ Behaviour.Command.act (.printLine text.toList) true
    let outcome := fun commands ↦
      (logged default (.ofBehaviour [] fun _ ↦ Behaviour.follow commands) ⟨"x.test".toList⟩ script
        ⟨Marks.standard, none⟩).1.outcome
    outcome [read, say "a", read] = .passed ∧
      outcome [read, say "b", .stop (.panicked (some "late".toList))] = .failed
        ⟨.expectationMismatch, "expected: a, actual: b".toList, some "a".toList,
          some "b".toList⟩ ∧
      outcome [say "a", read, .stop (.faulted (.reported "late".toList))] = .failed
        ⟨.protocolViolation, "protocol violation: wrote 'a' while input 1 was due".toList, none,
          none⟩ ∧
      outcome [read, .stop (.faulted (.reported "no disk".toList))] = .failed
        ⟨.runtimeFault, "no disk".toList, none, none⟩ ∧
      outcome [.stop (.faulted (.transfer (.other "no disk".toList)))] = .failed
        ⟨.runtimeFault, "I/O error: no disk".toList, none, none⟩ ∧
      outcome [.stop (.faulted (.transfer (.deviation (.mismatch ['c'] ['d']))))] = .failed
        ⟨.expectationMismatch, "expected: c, actual: d".toList, some ['c'], some ['d']⟩ ∧
      outcome [.stop (.faulted (.silence ⟨1500000000⟩))] = .failed
        ⟨.runtimeFault, "program produced no output within 1.5s".toList, none, none⟩ ∧
      outcome [read, .stop (.panicked (some "no disk".toList))] = .failed
        ⟨.runtimeFault, "program panicked: no disk".toList, none, none⟩ ∧
      outcome [read, .stop (.panicked none)] = .failed
        ⟨.runtimeFault, "program panicked: unknown panic payload".toList, none, none⟩ ∧
      outcome [read] = .failed
        ⟨.incompleteRun, "expected 1 more output(s)".toList, none, none⟩ := by
  intro script read say outcome
  have hverdict := fun commands ↦
    outcome_of_record default [] (fun _ ↦ Behaviour.follow commands) ⟨"x.test".toList⟩ script
      ⟨Marks.standard, none⟩
  have hpassed := fun commands ↦ (hverdict commands).1.mpr
  have hrefusal := fun commands ↦ (hverdict commands).2.1
  have hfault := fun commands ↦ (hverdict commands).2.2.1
  have hpanic := fun commands ↦ (hverdict commands).2.2.2.1
  have hleft := fun commands ↦ (hverdict commands).2.2.2.2.1
  refine ⟨?_, ?_, ?_, ?_, ?_, ?_, ?_, ?_, ?_, ?_⟩
  · exact hpassed _ (by decide +kernel)
  · exact (hrefusal _ (.mismatch ['a'] ['b']) (by decide +kernel)).trans (by decide +kernel)
  · exact (hrefusal _ (.violation (.wroteBeforeInput ['a'] 1)) (by decide +kernel)).trans
      (by decide +kernel)
  · exact hfault _ (.reported "no disk".toList) (by decide +kernel) (by decide +kernel)
  · exact (hfault _ (.transfer (.other "no disk".toList)) (by decide +kernel)
      (by decide +kernel)).trans (by decide +kernel)
  · exact (hfault _ (.transfer (.deviation (.mismatch ['c'] ['d']))) (by decide +kernel)
      (by decide +kernel)).trans (by decide +kernel)
  · exact (hfault _ (.silence ⟨1500000000⟩) (by decide +kernel) (by decide +kernel)).trans
      (by decide +kernel)
  · exact (hpanic _ (some "no disk".toList) (by decide +kernel) (by decide +kernel)).trans
      (by decide +kernel)
  · exact (hpanic _ none (by decide +kernel) (by decide +kernel)).trans (by decide +kernel)
  · exact (hleft _ (by decide +kernel) (by decide +kernel) (by decide +kernel)).trans
      (by decide +kernel)

end Run

end Dialogue
