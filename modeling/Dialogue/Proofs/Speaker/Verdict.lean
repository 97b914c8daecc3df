import Dialogue.Proofs.Script.Parse
import Dialogue.Proofs.Speaker.Child

/-!
# The same program inside and outside

A program that speaks line by line need not get the same verdict inside the harness and as a process
of its own. Outside, a line that is said before its input waits and meets the next output that is
due; inside, it is refused. And an empty line alone meets a lone line break inside, where it goes
out with the next read, while outside the harness waits for another line (`verdicts_differ`).

There is no other difference: for a script that expects no lone line break, a program passes inside
exactly if it passes outside and is timely there (`passed_apart_and_timely_iff`).
-/

set_option autoImplicit false
set_option relaxedAutoImplicit false

namespace Dialogue.Run

open Peer (Timely)

/-- The outcome in a report is that of judging how the program ends at a fresh console. -/
theorem outcome_eq_passed_iff (host : Host) (program : Program) (path : Path) (script : Script)
    (options : Options) :
    (logged host program path script options).1.outcome = .passed ↔
      Passes (program.invoke script.argumentList
        (Console.opened (openChannel script options.marks path.displayName))) := by
  rw [(logged_fst host program path script options).1]
  rfl

/-- At the start of a run the first input is due. -/
theorem at_opened {script : Script} {cases : List Script.Case}
    (hsteps : script.steps = cases.flatMap Script.Case.steps) (hsound : Stage.Sound cases)
    (marks : Marks) (name : Text) :
    (Stage.listening cases).At script marks (Console.opened (openChannel script marks name)) := by
  have hfaces := (Channel.faces_start script marks).note (openingLine marks name)
  rw [hsteps] at hfaces
  exact .listening ⟨hfaces, rfl, hsound⟩

/-- At the start of a run one line can be read for each case, and the terminator. -/
theorem linesLeft_opened {script : Script} {cases : List Script.Case}
    (hsteps : script.steps = cases.flatMap Script.Case.steps) (marks : Marks) (name : Text) :
    (Console.opened (openChannel script marks name)).channel.linesLeft = cases.length + 1 := by
  change script.steps.countP Step.isInput - 0 + 1 = _
  rw [hsteps, (Script.countP_flatMap_steps cases).1, Nat.sub_zero]

/-- A program that speaks line by line passes as a process of its own, and is timely there, exactly
if it passes inside the harness and the clock can wait for the exit of the process. -/
theorem passed_apart_and_timely_iff (host : Host) (name : Text) (limit : Duration)
    (speak : List Text → List Text) (path : Path) (options : Options) {text : Text}
    {script : Script} (hparse : Script.parse text = .ok script) (hmarks : options.marks.OneLine)
    (hplain : ∀ heard, ∀ line ∈ speak heard, line.Plain)
    (hlone : ∀ expectation ∈ script.expectations, expectation ≠ loneBreak) :
    let inside := (logged host (Program.speaking name speak) path script options).1
    let apart := (logged host (Program.speakingApart name limit speak) path script options).1
    let console := Console.opened (openChannel script options.marks path.displayName)
    let moments := (Peer.speaking speak).moments limit console
    apart.outcome = .passed ∧ Timely options.marks script.inputs.length moments ↔
      inside.outcome = .passed ∧ limit.nanoseconds < Peer.clockLimit * 1000000000 := by
  intro inside apart console moments
  obtain ⟨cases, -, hsteps⟩ := Script.parse_eq_ok_iff.mp hparse
  rw [Script.expectations_eq hsteps] at hlone
  have hat := at_opened hsteps (fun case hcase ↦ hlone _ (List.mem_map_of_mem hcase))
    options.marks path.displayName
  have hlength : script.inputs.length = cases.length := by
    rw [Script.inputs_eq hsteps, List.length_map]
  have hreads : cases.length < console.channel.linesLeft + 1 := by
    rw [linesLeft_opened hsteps]
    omega
  rw [outcome_eq_passed_iff, outcome_eq_passed_iff, hlength]
  refine (Peer.passes_play_speaking_iff hmarks hplain hat).trans ?_
  rw [and_comm, ← Behaviour.passes_speaking_iff hmarks hplain hreads hat]
  rfl

/-- A program that makes remarks before its first read and in front of an answer, and answers one
input with two lines. -/
theorem passed_apart_remarks :
    let script : Script :=
      ⟨none, [.input "show".toList, .expect "a\nb".toList .exact, .input "next".toList,
        .expect "ok".toList .caseInsensitive], List.cons_ne_nil _ _⟩
    let speak (heard : List Text) : List Text :=
      if heard = [] then ["Test: up".toList]
      else if heard = ["show".toList] then ["a".toList, "b".toList]
      else ["Test: again".toList, "OK".toList]
    let options : Options := ⟨Marks.standard, none⟩
    let limit := Duration.ofSeconds 5
    let inside := (logged default (Program.speaking [] speak) default script options).1
    let apart := (logged default (Program.speakingApart [] limit speak) default script options).1
    inside.outcome = .passed ∧ apart.outcome = .passed := by
  intro script speak options limit inside apart
  have hparse : Script.parse "\"a\nb\" : \"show\"\n\"!Cok\" : \"next\"\n".toList = .ok script := by
    decide +kernel
  have hplain : ∀ heard, ∀ line ∈ speak heard, line.Plain := by
    intro heard
    simp only [speak]
    split_ifs <;> simp [Text.Plain]
  have hlone : ∀ expectation ∈ script.expectations, expectation ≠ loneBreak := by decide
  have hinside : inside.outcome = .passed := by decide +kernel
  have hiff := passed_apart_and_timely_iff default [] limit speak default options hparse (by decide)
    hplain hlone
  exact ⟨hinside, (hiff.mpr ⟨hinside, by decide⟩).1⟩

/-- A line that is said too early fails inside, and outside it is taken for the answer. An empty
line that answers a lone line break passes inside, and outside it is waited for in vain. -/
theorem verdicts_differ :
    let early : Script :=
      ⟨none, [.input "x".toList, .expect "a".toList .exact], List.cons_ne_nil _ _⟩
    let blank : Script :=
      ⟨none, [.input "x".toList, .expect "\n".toList .exact], List.cons_ne_nil _ _⟩
    let sayEarly (heard : List Text) : List Text := if heard = [] then ["a".toList] else []
    let sayBlank (heard : List Text) : List Text := if heard = [] then [] else [[]]
    let options : Options := ⟨Marks.standard, none⟩
    let inside script speak :=
      (logged default (Program.speaking [] speak) default script options).1.outcome
    let apart script speak :=
      (logged default (Program.speakingApart [] (Duration.ofSeconds 5) speak) default script
        options).1.outcome
    (Script.parse "\"a\" : \"x\"\n".toList = .ok early ∧
      Script.parse "\"\n\" : \"x\"\n".toList = .ok blank ∧
      (∀ heard, ∀ line ∈ sayEarly heard, line.Plain) ∧
      ∀ heard, ∀ line ∈ sayBlank heard, line.Plain) ∧
    (inside early sayEarly ≠ .passed ∧ apart early sayEarly = .passed) ∧
    inside blank sayBlank = .passed ∧ apart blank sayBlank ≠ .passed := by
  intro early blank sayEarly sayBlank options inside apart
  have hplain : (∀ heard, ∀ line ∈ sayEarly heard, line.Plain) ∧
      ∀ heard, ∀ line ∈ sayBlank heard, line.Plain := by
    constructor <;> intro heard <;> simp only [sayEarly, sayBlank] <;> split_ifs <;>
      simp [Text.Plain]
  refine ⟨⟨by decide +kernel, by decide +kernel, hplain⟩, ⟨by decide +kernel, ?_⟩,
    by decide +kernel, ?_⟩
  · let console := Console.opened (openChannel early Marks.standard (Path.displayName default))
    let asked := console.readLine.2
    let answered := (asked.printLine "a".toList).2
    let done := answered.readLine.2
    have hasked : console.readLine = (.ok "x".toList, asked) := Prod.ext (by decide +kernel) rfl
    have hanswered : asked.printLine "a".toList = (.ok (), answered) :=
      Prod.ext (by decide +kernel) rfl
    have hdone : answered.readLine = (.ok terminator, done) := Prod.ext (by decide +kernel) rfl
    have hconverses : (Peer.speaking sayEarly).Converses (Duration.ofSeconds 5) console
        (Peer.speaking sayEarly).initial _ (none, done, Peer.Speech.mk ["x".toList] [] true) :=
      .goesOn (.sent (by decide +kernel) hasked rfl (by decide)) <|
      .goesOn (.passedOn (by decide +kernel) rfl hanswered) <|
      .goesOn (.sent (by decide +kernel) hdone rfl fun _ ↦ rfl) <|
      .ends (.drained (by decide +kernel))
    refine (outcome_eq_passed_iff _ _ _ _ _).mpr (Peer.passes_play_iff.mpr ⟨by decide, ?_⟩)
    rw [hconverses.converse_eq]
    exact ⟨rfl, rfl, done, rfl, by decide +kernel⟩
  · let console := Console.opened (openChannel blank Marks.standard (Path.displayName default))
    let asked := console.readLine.2
    let held := (asked.printLine []).2
    have hasked : console.readLine = (.ok "x".toList, asked) := Prod.ext (by decide +kernel) rfl
    have hheld : asked.printLine [] = (.ok (), held) := Prod.ext (by decide +kernel) rfl
    have hconverses : (Peer.speaking sayBlank).Converses (Duration.ofSeconds 5) console
        (Peer.speaking sayBlank).initial _ (some (.silence (Duration.ofSeconds 5)), held,
          Peer.Speech.mk ["x".toList] [] false) :=
      .goesOn (.sent (by decide +kernel) hasked rfl (by decide)) <|
      .goesOn (.passedOn (by decide +kernel) rfl hheld) <|
      .ends (.silence (by decide +kernel) rfl)
    intro hpassed
    obtain ⟨-, hwell⟩ := Peer.passes_play_iff.mp ((outcome_eq_passed_iff _ _ _ _ _).mp hpassed)
    rw [hconverses.converse_eq] at hwell
    exact absurd hwell.1 (by simp)

end Dialogue.Run
