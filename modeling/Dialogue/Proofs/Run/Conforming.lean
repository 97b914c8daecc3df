import Dialogue.Proofs.Console.Output
import Dialogue.Proofs.Run.Verdict
import Dialogue.Proofs.Script.Parse

/-!
# Programs that keep to a script

A program conforms to inputs and outputs if it reads the inputs one by one, gives the output that
belongs to each, reads once more and ends (`Behaviour.Conforms`). If its outputs fit the
expectations of a script, the console settles before each input with the cases that are left, and
behind the last one the terminator is read (`Behaviour.Conforms.run_eq_of_fits`). No such program is
ever turned down: `passed_of_conforms` says so of outputs that suit the expectations.
-/

set_option autoImplicit false
set_option relaxedAutoImplicit false

namespace Dialogue

/-! ### What a script asks for -/

/-- The line of an input. -/
def Step.line? : Step → Option Text
  | input line => some line
  | expect _ _ => none

/-- The pattern and the mode of an expected output. -/
def Step.pattern? : Step → Option (Text × MatchMode)
  | input _ => none
  | expect pattern mode => some (pattern, mode)

namespace Script

/-- The lines that a script types. -/
def inputs (script : Script) : List Text :=
  script.steps.filterMap Step.line?

/-- The outputs that a script expects. -/
def expectations (script : Script) : List (Text × MatchMode) :=
  script.steps.filterMap Step.pattern?

/-- The pattern and the mode of a case. -/
def Case.expectation (case : Case) : Text × MatchMode :=
  (case.pattern, case.mode)

theorem filterMap_flatMap_steps {β : Type} {read : Step → Option β} {field : Case → β}
    (h : ∀ case : Case, case.steps.filterMap read = [field case]) (cases : List Case) :
    (cases.flatMap Case.steps).filterMap read = cases.map field := by
  induction cases with
  | nil => rfl
  | cons case cases ih =>
    rw [List.flatMap_cons, List.filterMap_append, h, ih, List.map_cons, List.singleton_append]

theorem inputs_eq {script : Script} {cases : List Case}
    (h : script.steps = cases.flatMap Case.steps) : script.inputs = cases.map Case.input := by
  rw [inputs, h]
  exact filterMap_flatMap_steps (fun _ ↦ rfl) cases

theorem expectations_eq {script : Script} {cases : List Case}
    (h : script.steps = cases.flatMap Case.steps) :
    script.expectations = cases.map Case.expectation := by
  rw [expectations, h]
  exact filterMap_flatMap_steps (fun _ ↦ rfl) cases

/-- Cases begin with an input. -/
theorem isExpect_of_mem_head?_flatMap_steps (cases : List Case) :
    ∀ step ∈ (cases.flatMap Case.steps).head?, step.isExpect = false := by
  intro step hstep
  cases cases with
  | nil => contradiction
  | cons case cases =>
    obtain rfl : Step.input case.input = step := Option.some.inj hstep
    rfl

end Script

/-! ### Conforming programs -/

namespace Behaviour

/-- A program reads these lines one after the other and gives one of the outputs after each; then it
reads the terminator and ends by itself. What it would do otherwise does not matter. -/
inductive Conforms : List Text → List Output → Behaviour → Prop
  | ends {next : Console.Reply → Behaviour} (hend : next (.line terminator) = .stop .returned) :
    Conforms [] [] (.act .read next)
  | answers {line : Text} {inputs : List Text} {output : Output} {outputs : List Output}
    {next later : Console.Reply → Behaviour}
    (hanswer : next (.line line) = .act output.action later)
    (hlater : Conforms inputs outputs (later .done)) :
    Conforms (line :: inputs) (output :: outputs) (.act .read next)

/-- A program that gives these outputs, whatever it reads, and ends with the first refusal. -/
def giving : List Output → Behaviour
  | [] =>
    .act .read fun
      | .refused deviation => .stop (.faulted (.deviation deviation))
      | _ => .stop .returned
  | output :: outputs =>
    .act .read fun
      | .refused deviation => .stop (.faulted (.deviation deviation))
      | _ => .act output.action fun
        | .refused deviation => .stop (.faulted (faultOf output.action deviation))
        | _ => giving outputs

/-- Any outputs can be given, one for each input. -/
theorem conforms_giving {inputs : List Text} {outputs : List Output}
    (h : inputs.length = outputs.length) : (giving outputs).Conforms inputs outputs := by
  induction outputs generalizing inputs with
  | nil =>
    obtain rfl := List.length_eq_zero_iff.mp h
    exact .ends rfl
  | cons output outputs ih =>
    cases inputs with
    | nil => contradiction
    | cons line inputs => exact .answers rfl (ih (Nat.succ.inj h))

/-- The lines that a program reads from its start at a console on. -/
def linesRead : Behaviour → Console → List Text
  | stop _, _ => []
  | act action next, console =>
    let (reply, after) := console.perform action
    match reply with
    | .line text => text :: (next reply).linesRead after
    | _ => (next reply).linesRead after

/-- A conforming program takes the cases that are left one by one, and the terminator. -/
theorem Conforms.run_eq_of_fits {script : Script} {marks : Marks} (hmarks : marks.OneLine)
    {cases : List Script.Case} {outputs : List Output} {behaviour : Behaviour} {console : Console}
    (h : behaviour.Conforms (cases.map Script.Case.input) outputs)
    (hfits : List.Forall₂ (Output.Fits marks) outputs (cases.map Script.Case.expectation))
    (hsettles : console.Settles script marks (cases.flatMap Script.Case.steps)) :
    ∃ after, behaviour.run console = (.returned, ⟨after, []⟩) ∧ after.InStep script marks ∧
      after.failure = none ∧ after.terminatorSent = true ∧
      behaviour.linesRead console = cases.map Script.Case.input ++ [terminator] := by
  -- Before each read, the console settles with the cases that are left.
  induction cases generalizing outputs behaviour console with
  | nil =>
    cases h with
    | ends hend =>
      obtain ⟨after, hread, hafter⟩ := hsettles.perform_read_terminator
      refine ⟨after, ?_, hafter.1, hafter.2.1, hafter.2.2, ?_⟩
      · rw [run, hread]
        simp only [hend, run]
      · rw [linesRead, hread]
        simp only [hend, linesRead]
        rfl
  | cons case cases ih =>
    cases h with
    | answers hanswer hlater =>
      obtain ⟨hfit, hrest⟩ := List.forall₂_cons.mp hfits
      obtain ⟨between, hread, hfaces⟩ := hsettles.perform_read
      obtain ⟨settled, hgive, hsettled⟩ := Console.perform_output hfaces hmarks hfit
        (Script.isExpect_of_mem_head?_flatMap_steps cases)
      obtain ⟨after, hrun, hinStep, hfailure, hsent, hlines⟩ := ih hlater hrest hsettled
      refine ⟨after, ?_, hinStep, hfailure, hsent, ?_⟩
      · rw [run, hread]
        simp only [hanswer, run, hgive]
        exact hrun
      · rw [linesRead, hread]
        simp only [hanswer, linesRead, hgive]
        rw [hlines]
        rfl

theorem Conforms.run_eq {script : Script} {marks : Marks} (hmarks : marks.OneLine)
    {cases : List Script.Case} {outputs : List Output} {behaviour : Behaviour} {console : Console}
    (h : behaviour.Conforms (cases.map Script.Case.input) outputs)
    (hsuits : List.Forall₂ (Output.Suits marks) outputs (cases.map Script.Case.expectation))
    (hsettles : console.Settles script marks (cases.flatMap Script.Case.steps)) :
    ∃ after, behaviour.run console = (.returned, ⟨after, []⟩) ∧ after.InStep script marks ∧
      after.failure = none ∧ after.terminatorSent = true ∧
      behaviour.linesRead console = cases.map Script.Case.input ++ [terminator] :=
  h.run_eq_of_fits hmarks (hsuits.imp fun _ _ ↦ Output.Suits.fits) hsettles

end Behaviour

/-! ### The verdict on conforming programs -/

namespace Run

/-- A program whose outputs suit the expectations of a script passes, whether it prints each of them
as a line or leaves the line break out. It has then read the inputs of the script in their order and
the terminator, and all of its outputs are matched. -/
theorem passed_of_conforms (host : Host) (name : Text) (behaviour : List Text → Behaviour)
    (path : Path) (options : Options) {text : Text} {script : Script} {outputs : List Output}
    (hparse : Script.parse text = .ok script) (hmarks : options.marks.OneLine)
    (hsuits : List.Forall₂ (Output.Suits options.marks) outputs script.expectations)
    (hconforms : (behaviour script.argumentList).Conforms script.inputs outputs) :
    let program := Program.ofBehaviour name behaviour
    let console := Console.opened (openChannel script options.marks path.displayName)
    let report := (logged host program path script options).1
    report.outcome = .passed ∧
      (behaviour script.argumentList).linesRead console = script.inputs ++ [terminator] ∧
      report.outputsMatched = report.outputs := by
  intro program console report
  obtain ⟨cases, -, hsteps⟩ := Script.parse_eq_ok_iff.mp hparse
  rw [Script.inputs_eq hsteps] at hconforms ⊢
  rw [Script.expectations_eq hsteps] at hsuits
  have hsettles : console.Settles script options.marks (cases.flatMap Script.Case.steps) := by
    rw [← hsteps]
    exact Console.settles_of_faces ((Channel.faces_start script options.marks).note _)
  obtain ⟨after, hrun, hinStep, hfailure, hsent, hlines⟩ :=
    hconforms.run_eq hmarks hsuits hsettles
  have hfinal : finalState program script options.marks path.displayName = (.returned, after) := by
    change (((behaviour script.argumentList).run console).1,
      ((behaviour script.argumentList).run console).2.emitAll.2.channel) = _
    rw [hrun, Console.emitAll_nil]
  obtain ⟨houtcome, houtputs, hmatched⟩ := logged_fst host program path script options
  rw [hfinal] at houtcome hmatched
  refine ⟨houtcome.trans ?_, hlines, ?_⟩
  · have hturn := hinStep.turn_eq_drained_iff.mpr hsent
    simp only [judge, hfailure, faultOf?, Channel.finish, hturn, if_true]
  · have hall := hinStep.outputsMatched_add
    rw [hinStep.terminatorSent hsent, List.drop_length, List.countP_nil, Nat.add_zero] at hall
    exact hmatched.trans (hall.trans houtputs.symm)

/-- A pattern of two lines may be answered without a line break at the end, and a pattern for which
case is irrelevant by a line in another case. -/
theorem passed_of_conforms_two_cases :
    let script : Script :=
      ⟨none, [.input "show".toList, .expect "a\nb".toList .exact, .input "next".toList,
        .expect "ok".toList .caseInsensitive], List.cons_ne_nil _ _⟩
    let behaviour := Behaviour.giving [.bare "a\nb".toList, .line "OK".toList]
    let program := Program.ofBehaviour [] fun _ ↦ behaviour
    let console := Console.opened (openChannel script Marks.standard (Path.displayName default))
    let report := (logged default program default script ⟨Marks.standard, none⟩).1
    Script.parse "\"a\nb\" : \"show\"\n\"!Cok\" : \"next\"\n".toList = .ok script ∧
      report.outcome = .passed ∧
      behaviour.linesRead console = ["show".toList, "next".toList, "quit".toList] ∧
      report.outputsMatched = report.outputs := by
  intro script behaviour program console report
  have hparse : Script.parse "\"a\nb\" : \"show\"\n\"!Cok\" : \"next\"\n".toList = .ok script := by
    decide +kernel
  have hbare : (Output.bare "a\nb".toList).Suits Marks.standard ("a\nb".toList, .exact) :=
    ⟨by decide, by decide, by decide, by decide, by decide, by decide, by
      rintro _ ⟨⟩
      decide⟩
  have hline : (Output.line "OK".toList).Suits Marks.standard ("ok".toList, .caseInsensitive) :=
    ⟨by decide +kernel, by decide, by decide, by decide, by decide, by decide, by
      rintro _ ⟨⟩⟩
  obtain ⟨hpassed, hlines, hmatched⟩ := passed_of_conforms default [] (fun _ ↦ behaviour) default
    ⟨Marks.standard, none⟩ hparse (by decide) (.cons hbare (.cons hline .nil))
    (Behaviour.conforms_giving rfl)
  exact ⟨hparse, hpassed, hlines, hmatched⟩

end Run

end Dialogue
