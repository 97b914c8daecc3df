import Dialogue.Proofs.Run.Conforming
import Dialogue.Proofs.Script.Readable

/-!
# Scripts that can be passed

Which scripts does any program pass at all? A console gives its channel no output without
characters (`Console.write_nil_notMem_requests`): a line that is empty is its line break alone, and
a line break ends the output before it. A pattern that only such an output satisfies is therefore
never satisfied, whatever a program does (`not_passed_of_empty`).

Every other pattern of a script that has been read from a text is satisfied by an output that fits
it (`Output.fits_satisfying`): by itself, or by an error if any error will do. It is printed as a
line if it ends in a line break, so that the last line break is not taken for the end of the line,
and is left without a line break otherwise, so that carriage returns at its end stay. A program that
gives these outputs one after the other passes. `passable_of_parse` puts both parts together.
-/

set_option autoImplicit false
set_option relaxedAutoImplicit false

namespace Dialogue

open Console (Action)

/-! ### Outputs without characters -/

/-- Nothing but the empty output satisfies an empty pattern, unless any error will do. -/
theorem MatchMode.eq_nil_of_accepts_nil {mode : MatchMode} {text : Text}
    (hmode : mode ≠ .errorSentinel) (h : mode.accepts [] text = true) : text = [] := by
  cases mode with
  | exact => exact beq_iff_eq.mp h
  | caseInsensitive => exact Text.lowerCase_eq_nil_iff.mp (beq_iff_eq.mp h)
  | errorSentinel => contradiction

/-- A pattern satisfies itself, unless any error will do. -/
theorem MatchMode.accepts_self {pattern : Text} {mode : MatchMode} (h : mode ≠ .errorSentinel) :
    mode.accepts pattern pattern = true := by
  cases mode with
  | exact | caseInsensitive => exact beq_self_eq_true _
  | errorSentinel => contradiction

namespace Run

theorem write_nil_notMem_requests (behaviour : Behaviour) (script : Script) (marks : Marks)
    (name : Text) : Channel.Request.write [] ∉ requests behaviour script marks name := by
  simp only [requests, List.mem_cons, List.mem_append, not_or]
  exact ⟨by simp, behaviour.write_nil_notMem_requests _, Console.write_nil_notMem_allRequests _⟩

/-- A script that expects an output without characters is not passed, whatever a program does. -/
theorem not_passed_of_empty (host : Host) (name : Text) (behaviour : List Text → Behaviour)
    (path : Path) (options : Options) {script : Script} {mode : MatchMode}
    (hexpect : ([], mode) ∈ script.expectations) (hmode : mode ≠ .errorSentinel) :
    (logged host (Program.ofBehaviour name behaviour) path script options).1.outcome ≠
      .passed := by
  intro hpassed
  have hrecord := recorded_finalState name behaviour script options.marks path.displayName
  rw [(logged_fst ..).1, judge_eq_passed_iff hrecord] at hpassed
  obtain ⟨-, -, hleft, -⟩ := hpassed
  obtain ⟨step, hstep, hpattern⟩ := List.mem_filterMap.mp hexpect
  obtain ⟨event, hevent, hperforms⟩ := hrecord.exists_performs hleft hstep
  cases step with
  | input line => contradiction
  | expect pattern how =>
    obtain ⟨rfl, rfl⟩ := Prod.mk.inj (Option.some.inj hpattern)
    cases event with
    | heard line => contradiction
    | said text =>
      have haccepts := Channel.Event.performs_expect_iff.mp hperforms
      have hnil : text = [] :=
        Text.unifyBreaks_eq_nil_iff.mp (MatchMode.eq_nil_of_accepts_nil hmode haccepts)
      rw [hnil] at hevent
      exact write_nil_notMem_requests _ _ _ _ (Channel.write_mem_of_said hevent)

end Run

/-! ### Outputs that fit -/

namespace Output

/-- An output that satisfies an expectation, if any does. -/
def satisfying : Text × MatchMode → Output
  | (_, .errorSentinel) => .line errorOpening
  | (pattern, _) => if pattern.getLast? = some '\n' then .line pattern else .bare pattern

/-- An expectation that has been read from a text, and that is not for an output that is empty, a
remark, or a lone line break up to case. -/
structure Satisfiable (marks : Marks) (expectation : Text × MatchMode) : Prop where
  plainBreaks : Script.PlainBreaks expectation.1
  ne_nil : expectation.2 ≠ .errorSentinel → expectation.1 ≠ []
  noMark : expectation.2 ≠ .errorSentinel → ¬marks.BorneBy expectation.1
  notLone : expectation ≠ (['\n'], .caseInsensitive)

theorem text_satisfying {pattern : Text} {mode : MatchMode} (h : mode ≠ .errorSentinel) :
    (satisfying (pattern, mode)).text = pattern := by
  cases mode with
  | errorSentinel => contradiction
  | exact | caseInsensitive =>
    simp only [satisfying]
    split_ifs <;> rfl

/-- An error fits where any error will do. -/
theorem fits_errorOpening {marks : Marks} (hmark : ¬marks.BorneBy errorOpening) (pattern : Text) :
    (Output.line errorOpening).Fits marks (pattern, .errorSentinel) where
  accepts := rfl
  ne_nil := List.cons_ne_nil _ _
  unified := rfl
  noMark := hmark
  sentinel := fun _ ↦ show '\n' ∉ errorOpening by decide
  caseInsensitive := nofun
  line := by
    rintro _ ⟨⟩
    rfl
  bare := nofun

/-- Every satisfiable expectation is met by an output that fits. -/
theorem fits_satisfying {marks : Marks} (hmark : ¬marks.BorneBy errorOpening)
    {expectation : Text × MatchMode} (h : Satisfiable marks expectation) :
    (satisfying expectation).Fits marks expectation := by
  obtain ⟨pattern, mode⟩ := expectation
  by_cases hmode : mode = .errorSentinel
  · subst hmode
    exact fits_errorOpening hmark pattern
  have htext : (satisfying (pattern, mode)).text = pattern := text_satisfying hmode
  -- The line break at the end of a pattern tells how the output is given.
  have hgiven : satisfying (pattern, mode) =
      if pattern.getLast? = some '\n' then .line pattern else .bare pattern := by
    cases mode with
    | exact | caseInsensitive => rfl
    | errorSentinel => contradiction
  constructor
  · rw [htext]
    exact MatchMode.accepts_self hmode
  · rw [htext]
    exact h.ne_nil hmode
  · rw [htext]
    exact h.plainBreaks.unifyBreaks_eq
  · rw [htext]
    exact h.noMark hmode
  · exact fun heq ↦ absurd heq hmode
  · intro hcase
    rw [htext]
    rintro rfl
    exact h.notLone (congrArg (Prod.mk ['\n']) hcase)
  · intro text heq
    rw [hgiven] at heq
    split_ifs at heq with hlast
    obtain rfl : pattern = text := Output.line.inj heq
    exact Text.trimReturns_of_getLast? hlast
  · intro text heq
    rw [hgiven] at heq
    split_ifs at heq with hlast
    obtain rfl : pattern = text := Output.bare.inj heq
    exact hlast

/-- What a program does that gives some outputs, each behind a read, and reads once more. -/
def dialogue (outputs : List Output) : List Action :=
  outputs.flatMap (fun output ↦ [.read, output.action]) ++ [.read]

/-- Such a program reads, prints lines and writes bytes, and does nothing else. -/
theorem eq_of_mem_dialogue {outputs : List Output} {action : Action}
    (h : action ∈ dialogue outputs) :
    action = .read ∨ (∃ line, action = .printLine line) ∨ ∃ bytes, action = .write bytes := by
  rw [dialogue, List.mem_append, List.mem_flatMap, List.mem_singleton] at h
  rcases h with ⟨output, -, hmem⟩ | rfl
  · rw [List.mem_pair] at hmem
    rcases hmem with rfl | rfl
    · exact .inl rfl
    · cases output with
      | line text => exact .inr (.inl ⟨text, rfl⟩)
      | bare text => exact .inr (.inr ⟨_, rfl⟩)
  · exact .inl rfl

/-- A program that does so conforms to as many inputs. -/
theorem conforms_dialogue {inputs : List Text} {outputs : List Output}
    (h : inputs.length = outputs.length) :
    (Behaviour.follow ((dialogue outputs).map (.act · true))).Conforms inputs outputs := by
  induction outputs generalizing inputs with
  | nil =>
    obtain rfl := List.length_eq_zero_iff.mp h
    exact .ends rfl
  | cons output outputs ih =>
    cases inputs with
    | nil => contradiction
    | cons line inputs => exact .answers rfl (ih (Nat.succ.inj h))

end Output

namespace Run

/-- A script whose expectations are satisfiable is passed by the program that satisfies them one by
one. -/
theorem passed_of_satisfiable (host : Host) (name : Text) (path : Path) (options : Options)
    {text : Text} {script : Script} (hparse : Script.parse text = .ok script)
    (hmarks : options.marks.OneLine) (hmark : ¬options.marks.BorneBy errorOpening)
    (hsatisfiable : ∀ expectation ∈ script.expectations,
      Output.Satisfiable options.marks expectation) :
    let actions := Output.dialogue (script.expectations.map Output.satisfying)
    let program := Program.following name (actions.map (.act · true))
    (logged host program path script options).1.outcome = .passed := by
  intro actions program
  obtain ⟨cases, -, hsteps⟩ := Script.parse_eq_ok_iff.mp hparse
  have hexpectations := Script.expectations_eq hsteps
  have hfits : List.Forall₂ (Output.Fits options.marks)
      (script.expectations.map Output.satisfying) (cases.map Script.Case.expectation) := by
    rw [← hexpectations, List.forall₂_map_left_iff, List.forall₂_same]
    exact fun expectation hmem ↦ Output.fits_satisfying hmark (hsatisfiable expectation hmem)
  have hconforms : (Behaviour.follow (actions.map (.act · true))).Conforms
      (cases.map Script.Case.input) (script.expectations.map Output.satisfying) :=
    Output.conforms_dialogue (by rw [hexpectations]; simp)
  have hsettles : (Console.opened (openChannel script options.marks path.displayName)).Settles
      script options.marks (cases.flatMap Script.Case.steps) := by
    rw [← hsteps]
    exact Console.settles_of_faces ((Channel.faces_start script options.marks).note _)
  obtain ⟨after, hrun, hinStep, hfailure, hsent, -⟩ :=
    hconforms.run_eq_of_fits hmarks hfits hsettles
  have hfinal : finalState program script options.marks path.displayName = (.returned, after) := by
    change (((Behaviour.follow (actions.map (.act · true))).run _).1,
      ((Behaviour.follow (actions.map (.act · true))).run _).2.emitAll.2.channel) = _
    rw [hrun, Console.emitAll_nil]
  have hturn := hinStep.turn_eq_drained_iff.mpr hsent
  rw [(logged_fst ..).1, hfinal]
  simp only [judge, hfailure, faultOf?, Channel.finish, hturn, if_true]

/-- The patterns of a script that has been read hold no carriage return in front of a line feed. -/
theorem plainBreaks_of_mem_expectations {text : Text} {script : Script}
    (hparse : Script.parse text = .ok script) {expectation : Text × MatchMode}
    (hmem : expectation ∈ script.expectations) : Script.PlainBreaks expectation.1 := by
  obtain ⟨cases, hsteps, -, hreadable⟩ := Script.readable_of_parse hparse
  rw [Script.expectations_eq hsteps] at hmem
  obtain ⟨case, hcase, rfl⟩ := List.mem_map.mp hmem
  exact (hreadable case hcase).plainBreaks

/-- Whether a script can be passed at all, with the standard marks. Let a text be a script in which
no pattern that is compared with outputs begins like a remark, and none is a lone line break up to
case. If none of these patterns is empty, some reads and writes of a program that then ends by
itself make it pass. If one of them is empty, no program passes: a line break without an output
before it is no output, and nothing else is written for an empty line. -/
theorem passable_of_parse {text : Text} {script : Script} (hparse : Script.parse text = .ok script)
    (hmarks : ∀ expectation ∈ script.expectations,
      expectation.2 ≠ .errorSentinel → ¬Marks.standard.BorneBy expectation.1)
    (hlone : ∀ expectation ∈ script.expectations, expectation ≠ (['\n'], .caseInsensitive)) :
    ((∀ expectation ∈ script.expectations, expectation.2 ≠ .errorSentinel → expectation.1 ≠ []) →
      ∃ actions : List Action,
        (∀ action ∈ actions, action = .read ∨ (∃ line, action = .printLine line) ∨
          ∃ bytes, action = .write bytes) ∧
        ∀ (host : Host) (name : Text) (path : Path) (logDirectory : Option Path),
          (logged host (Program.following name (actions.map (.act · true))) path script
            ⟨Marks.standard, logDirectory⟩).1.outcome = .passed) ∧
      ((∃ expectation ∈ script.expectations,
          expectation.2 ≠ .errorSentinel ∧ expectation.1 = []) →
        ∀ (host : Host) (name : Text) (behaviour : List Text → Behaviour) (path : Path)
          (options : Options),
          (logged host (Program.ofBehaviour name behaviour) path script options).1.outcome ≠
            .passed) := by
  constructor
  · intro hne
    refine ⟨Output.dialogue (script.expectations.map Output.satisfying), ?_, ?_⟩
    · intro action haction
      exact Output.eq_of_mem_dialogue haction
    · intro host name path logDirectory
      have honeLine : Marks.standard.OneLine := by decide
      have hmark : ¬Marks.standard.BorneBy errorOpening := by decide
      refine passed_of_satisfiable host name path _ hparse honeLine hmark ?_
      intro expectation hmem
      exact ⟨plainBreaks_of_mem_expectations hparse hmem, hne expectation hmem,
        hmarks expectation hmem, hlone expectation hmem⟩
  · rintro ⟨⟨pattern, mode⟩, hexpect, hmode, rfl⟩ host name behaviour path options
    exact not_passed_of_empty host name behaviour path options hexpect hmode

/-- A pattern that ends in a line break, one for which case is irrelevant and any error can be
satisfied one after the other. -/
theorem passable_of_parse_three_cases :
    let text := "\"a\n\" : \"x\"\n\"!CYes\" : \"y\"\n\"00err\" : \"z\"\n".toList
    let script : Script :=
      ⟨none, [.input "x".toList, .expect "a\n".toList .exact, .input "y".toList,
        .expect "Yes".toList .caseInsensitive, .input "z".toList,
        .expect "00err".toList .errorSentinel], List.cons_ne_nil _ _⟩
    Script.parse text = .ok script ∧
      ∃ actions : List Action,
        (∀ action ∈ actions, action = .read ∨ (∃ line, action = .printLine line) ∨
          ∃ bytes, action = .write bytes) ∧
        ∀ (host : Host) (name : Text) (path : Path) (logDirectory : Option Path),
          (logged host (Program.following name (actions.map (.act · true))) path script
            ⟨Marks.standard, logDirectory⟩).1.outcome = .passed := by
  intro text script
  have hparse : Script.parse text = .ok script := by decide +kernel
  have hexpectations : script.expectations = [("a\n".toList, .exact),
      ("Yes".toList, .caseInsensitive), ("00err".toList, .errorSentinel)] := rfl
  refine ⟨hparse, (passable_of_parse hparse ?_ ?_).1 ?_⟩ <;> rw [hexpectations] <;> decide

/-- Not every script can be passed: no program gives the empty output that this one expects. -/
theorem not_passable_empty_pattern :
    let text := "\"\" : \"x\"\n".toList
    let script : Script := ⟨none, [.input "x".toList, .expect [] .exact], List.cons_ne_nil _ _⟩
    Script.parse text = .ok script ∧
      (∀ expectation ∈ script.expectations, ¬Marks.standard.BorneBy expectation.1) ∧
      ∀ (host : Host) (name : Text) (behaviour : List Text → Behaviour) (path : Path)
        (logDirectory : Option Path),
        (logged host (Program.ofBehaviour name behaviour) path script
          ⟨Marks.standard, logDirectory⟩).1.outcome ≠ .passed := by
  intro text script
  refine ⟨by decide +kernel, by decide, fun host name behaviour path logDirectory ↦ ?_⟩
  have hexpect : ([], MatchMode.exact) ∈ script.expectations := List.mem_singleton_self _
  exact not_passed_of_empty host name behaviour path _ hexpect (by decide)

end Run

end Dialogue
