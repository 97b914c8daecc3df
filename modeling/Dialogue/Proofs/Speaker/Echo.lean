import Dialogue.Proofs.Run.Faithful
import Dialogue.Proofs.Script.Readable
import Dialogue.Proofs.Speaker.Verdict

/-!
# Giving back what was read

The program that prints every line it reads is the test of a script against itself: it passes
exactly if every input would pass for the output that is expected for it (`Echoes`). Two things make
this less than obvious. A line that is given back is a single line, so where the pattern that is due
spans several it is held back and only refused by the read that follows; and a line that is taken
for a remark is never refused, but leaves the output due, so that the next read is
(`Stage.Answering.refused_of_not_echoes`). A line that passes is added to the transcript with its
line break and leaves the next input due (`Stage.Answering.printLine_echo`).

From these two follow the runs: one that gives back every line (`Behaviour.run_echo`), and one that
fails at the first line that does not pass (`Behaviour.echoes_of_passes`). `passed_echo_iff` is the
verdict on the program.
-/

set_option autoImplicit false
set_option relaxedAutoImplicit false

namespace Dialogue

/-- An input passes for the output that is expected for it: it is not taken for the terminator nor
for a remark, and satisfies the pattern. -/
def Echoes (marks : Marks) (input : Text) (expectation : Text × MatchMode) : Prop :=
  input ≠ terminator ∧ ¬marks.BorneBy input ∧
    expectation.2.accepts expectation.1 input = true

instance (marks : Marks) (input : Text) (expectation : Text × MatchMode) :
    Decidable (Echoes marks input expectation) :=
  inferInstanceAs (Decidable (_ ∧ _ ∧ _))

/-- An input of a script that is printed as it stands: a line that is not empty and does not end in
a carriage return. -/
structure Text.IsWholeLine (text : Text) : Prop where
  ne_nil : text ≠ []
  newline_notMem : '\n' ∉ text
  last : text.getLast? ≠ some '\r'

/-- Reading where nothing is held back adds nothing to the transcript. -/
theorem Console.transcript_readLine_nil {channel : Channel} {result : Except Deviation Text}
    {after : Console} (h : (⟨channel, []⟩ : Console).readLine = (result, after)) :
    after.channel.transcript = channel.transcript := by
  rw [readLine_nil] at h
  obtain ⟨-, rfl⟩ := Prod.mk.inj h
  exact (Channel.transition_read channel).transcript_eq_of_read

/-! ### A line that is given back -/

namespace Stage.Answering

variable {script : Script} {marks : Marks} {case : Script.Case} {later : List Script.Case}
  {channel : Channel}

/-- A line that passes is taken, and the next input is due. -/
theorem printLine_echo (hmarks : marks.OneLine) (hline : case.input.IsWholeLine)
    (h : Answering script marks case [] later channel)
    (hechoes : Echoes marks case.input case.expectation) :
    ∃ after, (⟨channel, []⟩ : Console).printLine case.input = (.ok (), ⟨after, []⟩) ∧
      Listening script marks later after ∧
      after.transcript = channel.transcript ++ case.input ++ ['\n'] := by
  obtain ⟨-, hremark, htrue⟩ := hechoes
  have hmarks' : channel.marks = marks := h.faces.inStep.marks
  have hchatter : marks.isChatter case.input = false := by
    rwa [← Bool.not_eq_true, Marks.isChatter_iff]
  have haccepts : case.Accepts case.input :=
    ⟨hline.ne_nil, fun hlone ↦ hline.newline_notMem (by simp [hlone]), htrue⟩
  have hcount : case.input.count '\n' = 0 := List.count_eq_zero_of_not_mem hline.newline_notMem
  -- A single line satisfies only a pattern that spans a single line.
  have hsingle : case.span = 1 := by
    by_cases hmode : case.mode = .errorSentinel
    · rw [Script.Case.span, hmode]
    · rw [← haccepts.count_eq hmode, hcount]
  have hspan : channel.spanOf (Text.Utf8.encode case.input ++ [newlineByte]) =
      case.input.count '\n' + 1 := by
    rw [Channel.spanOf_encode_newline (hmarks' ▸ hmarks), hmarks', hchatter, if_neg (by simp),
      h.faces.pendingSpan_eq_span, hsingle, hcount]
  obtain ⟨after, hwrite, hafter, hnewline, htranscript⟩ := h.faces.writeLine_accepted hmarks
    (.of_line hline.newline_notMem hline.last) hchatter haccepts
  refine ⟨after, (Channel.drain_whole hspan).trans (by rw [hwrite]), ⟨hafter, hnewline, ?_⟩,
    htranscript⟩
  exact fun other hother ↦ h.sound other (List.mem_cons_of_mem _ hother)

/-- A line that does not pass is refused, at once or when the next line is read. -/
theorem refused_of_not_echoes (hmarks : marks.OneLine) (hline : case.input.IsWholeLine)
    (h : Answering script marks case [] later channel) (hend : case.input ≠ terminator)
    (hechoes : ¬Echoes marks case.input case.expectation) :
    (∃ deviation after,
        (⟨channel, []⟩ : Console).printLine case.input = (.error deviation, after)) ∨
      ∃ between, (⟨channel, []⟩ : Console).printLine case.input = (.ok (), between) ∧
        ∃ deviation after, between.readLine = (.error deviation, after) := by
  have hmarks' : channel.marks = marks := h.faces.inStep.marks
  have hkept : case.input.Kept := .of_line hline.newline_notMem hline.last
  have hcount : case.input.count '\n' = 0 := List.count_eq_zero_of_not_mem hline.newline_notMem
  by_cases hremark : marks.isChatter case.input = true
  · -- The remark is taken, but the output is still due when the next line is read.
    obtain ⟨after, hprint, hafter⟩ :=
      h.printLine_chatter hmarks hline.newline_notMem hkept hremark
    exact .inr ⟨_, hprint, (At.answering hafter).readLine_refused hmarks⟩
  · have hchatter : channel.marks.isChatter case.input = false := by
      rw [hmarks', ← Bool.not_eq_true]
      exact hremark
    have hunaccepted : ¬case.Accepts case.input := fun haccepts ↦
      hechoes ⟨hend, Marks.isChatter_iff.not.mp hremark, haccepts.2.2⟩
    obtain ⟨deviation, after, hwrite⟩ := h.faces.writeLine_unaccepted hmarks h.newline
      (h.sound case List.mem_cons_self) hkept (hmarks' ▸ hchatter) hunaccepted
    by_cases hsingle : case.span = 1
    · have hspan : channel.spanOf (Text.Utf8.encode case.input ++ [newlineByte]) =
          case.input.count '\n' + 1 := by
        rw [Channel.spanOf_encode_newline (hmarks' ▸ hmarks), hchatter, if_neg (by simp),
          h.faces.pendingSpan_eq_span, hsingle, hcount]
      exact .inl ⟨deviation, ⟨after, []⟩, (Channel.drain_whole hspan).trans (by rw [hwrite])⟩
    · -- The line waits for others and goes out alone when the next line is read.
      have hshort : case.input.count '\n' + 1 < channel.pendingSpan := by
        have hpos := case.span_pos
        rw [hcount, h.faces.pendingSpan_eq_span]
        omega
      have honeLine : channel.marks.OneLine := hmarks' ▸ hmarks
      refine .inr ⟨_, Channel.drain_held honeLine hchatter hshort, deviation, ⟨after, []⟩, ?_⟩
      rw [Console.readLine, Console.emitAll_held honeLine hchatter hshort, hwrite]

end Stage.Answering

/-! ### Runs -/

namespace Behaviour

open Stage (Listening Finished)

/-- A line that was read is given back, and the program goes on unless it is refused. -/
theorem run_echo_of_line {history : List Text} {reads : Nat} {console asked : Console} {line : Text}
    (hread : console.readLine = (.ok line, asked)) (hend : line ≠ terminator) :
    (answer (fun _ line ↦ [line]) history (reads + 1)).run console =
      match asked.printLine line with
      | (.error deviation, after) => (.faulted (.deviation deviation), after)
      | (.ok (), after) => (answer (fun _ line ↦ [line]) (line :: history) reads).run after := by
  rw [run_answer_of_line hread, if_neg hend, run_printLines, Console.printAll]
  rcases asked.printLine line with ⟨_ | _, after⟩ <;> rfl

variable {script : Script} {marks : Marks} {cases : List Script.Case} {history : List Text}
  {reads : Nat} {channel : Channel}

/-- If all lines pass, the program gives them back and ends with the terminator. -/
theorem run_echo (history : List Text) (hmarks : marks.OneLine)
    (hlines : ∀ case ∈ cases, case.input.IsWholeLine) (hreads : cases.length < reads)
    (h : Listening script marks cases channel)
    (hechoes : ∀ case ∈ cases, Echoes marks case.input case.expectation) :
    ∃ after, (answer (fun _ line ↦ [line]) history reads).run ⟨channel, []⟩ =
        (.returned, ⟨after, []⟩) ∧ Finished script marks after ∧
      after.transcript = channel.transcript ++ Stage.ended (cases.map Script.Case.input) := by
  induction cases generalizing history reads channel with
  | nil =>
    obtain ⟨reads, rfl⟩ := Nat.exists_eq_add_of_lt hreads
    obtain ⟨console, hread, hdone⟩ := (Stage.At.listening h).readLine_terminator
    have htranscript := Console.transcript_readLine_nil hread
    cases hdone with
    | @done after hafter =>
      refine ⟨after, ?_, hafter, htranscript.trans (List.append_nil _).symm⟩
      rw [run_answer_of_line hread, if_pos rfl]
  | cons case later ih =>
    obtain ⟨reads, rfl⟩ := Nat.exists_eq_add_one_of_ne_zero (Nat.ne_zero_of_lt hreads)
    obtain ⟨hline, hlines⟩ := List.forall_mem_cons.mp hlines
    obtain ⟨hfirst, hechoes⟩ := List.forall_mem_cons.mp hechoes
    obtain ⟨console, hread, hanswering⟩ := (Stage.At.listening h).readLine_case
    have htranscript := Console.transcript_readLine_nil hread
    cases hanswering with
    | @answering _ _ _ asked hasked =>
      obtain ⟨between, hprint, hlistening, hprinted⟩ := hasked.printLine_echo hmarks hline hfirst
      obtain ⟨after, hrun, hafter, hrest⟩ := ih (case.input :: history) hlines
        (Nat.lt_of_succ_lt_succ hreads) hlistening hechoes
      have hasks : (⟨channel, []⟩ : Console).readLine = (.ok case.input, ⟨asked, []⟩) := hread
      change asked.transcript = channel.transcript at htranscript
      refine ⟨after, ?_, hafter, ?_⟩
      · rw [run_echo_of_line hasks hfirst.1, hprint]
        exact hrun
      · rw [hrest, hprinted, htranscript]
        simp [Stage.ended]

/-- A run that passes has given back lines that pass, one for each input. -/
theorem echoes_of_passes (hmarks : marks.OneLine)
    (hlines : ∀ case ∈ cases, case.input.IsWholeLine) (hreads : cases.length < reads)
    (h : Listening script marks cases channel)
    (hpasses : Run.Passes ((answer (fun _ line ↦ [line]) history reads).run ⟨channel, []⟩)) :
    ∀ case ∈ cases, Echoes marks case.input case.expectation := by
  induction cases generalizing history reads channel with
  | nil => exact fun case hcase ↦ absurd hcase List.not_mem_nil
  | cons case later ih =>
    obtain ⟨reads, rfl⟩ := Nat.exists_eq_add_one_of_ne_zero (Nat.ne_zero_of_lt hreads)
    obtain ⟨hline, hlines⟩ := List.forall_mem_cons.mp hlines
    rw [List.length_cons] at hreads
    obtain ⟨console, hread, hanswering⟩ := (Stage.At.listening h).readLine_case
    by_cases hend : case.input = terminator
    · -- The program takes the input for the terminator, and an output is still due.
      rw [run_answer_of_line hread, if_pos hend] at hpasses
      exact absurd hpasses (Run.not_passes_of_answering hmarks hanswering)
    rw [run_echo_of_line hread hend] at hpasses
    cases hanswering with
    | @answering _ _ _ asked hasked =>
      change Run.Passes (match (⟨asked, []⟩ : Console).printLine case.input with
        | (.error deviation, after) => (.faulted (.deviation deviation), after)
        | (.ok (), after) => _) at hpasses
      by_cases hfirst : Echoes marks case.input case.expectation
      · obtain ⟨between, hprint, hlistening, -⟩ := hasked.printLine_echo hmarks hline hfirst
        rw [hprint] at hpasses
        exact List.forall_mem_cons.mpr
          ⟨hfirst, ih hlines (Nat.lt_of_succ_lt_succ hreads) hlistening hpasses⟩
      · rcases hasked.refused_of_not_echoes hmarks hline hend hfirst with
          ⟨deviation, after, hprint⟩ | ⟨between, hprint, deviation, after, hrefused⟩
        · rw [hprint] at hpasses
          exact absurd hpasses Run.not_passes_of_faulted
        · obtain ⟨more, rfl⟩ := Nat.exists_eq_add_one_of_ne_zero (Nat.ne_zero_of_lt
            (Nat.lt_of_succ_lt_succ hreads))
          rw [hprint] at hpasses
          dsimp only at hpasses
          rw [run_answer_of_refused hrefused] at hpasses
          exact absurd hpasses Run.not_passes_of_faulted

end Behaviour

/-! ### The verdict -/

namespace Run

/-- The program that prints back every line passes a script exactly if every input passes for the
output that is expected for it. The transcript then holds the opening line, and after it the inputs,
each on a line of its own. This holds for scripts that expect no lone line break and type no line
that ends in a carriage return. -/
theorem passed_echo_iff (host : Host) (path : Path) (options : Options) {text : Text}
    {script : Script} (hparse : Script.parse text = .ok script) (hmarks : options.marks.OneLine)
    (hreturn : ∀ input ∈ script.inputs, input.getLast? ≠ some '\r')
    (hlone : ∀ expectation ∈ script.expectations, expectation ≠ loneBreak) :
    let report := (logged host Program.echo path script options).1
    (report.outcome = .passed ↔
        List.Forall₂ (Echoes options.marks) script.inputs script.expectations) ∧
      (report.outcome = .passed →
        report.transcript = openingLine options.marks path.displayName ++ ['\n'] ++
          script.inputs.flatMap (· ++ ['\n'])) := by
  intro report
  obtain ⟨cases, hsteps, -, hreadable⟩ := Script.readable_of_parse hparse
  rw [Script.inputs_eq hsteps] at hreturn ⊢
  rw [Script.expectations_eq hsteps] at hlone ⊢
  have hlines : ∀ case ∈ cases, case.input.IsWholeLine := fun case hcase ↦
    ⟨(hreadable case hcase).input.1, (hreadable case hcase).inputLine,
      hreturn _ (List.mem_map_of_mem hcase)⟩
  have hsound : Stage.Sound cases := fun case hcase ↦ hlone _ (List.mem_map_of_mem hcase)
  let channel := openChannel script options.marks path.displayName
  let run := (Behaviour.echo ((Console.opened channel).channel.linesLeft + 1)).run
    (Console.opened channel)
  have hreads : cases.length < (Console.opened channel).channel.linesLeft + 1 := by
    rw [linesLeft_opened hsteps]
    omega
  have hlistening : Stage.Listening script options.marks cases channel := by
    cases at_opened hsteps hsound options.marks path.displayName with
    | listening h => exact h
  have hverdict : report.outcome = .passed ↔ Passes run := outcome_eq_passed_iff ..
  have hechoes : List.Forall₂ (Echoes options.marks) (cases.map Script.Case.input)
      (cases.map Script.Case.expectation) ↔
        ∀ case ∈ cases, Echoes options.marks case.input case.expectation := by
    rw [List.forall₂_map_left_iff, List.forall₂_map_right_iff, List.forall₂_same]
  have honly : Passes run → ∀ case ∈ cases, Echoes options.marks case.input case.expectation :=
    Behaviour.echoes_of_passes hmarks hlines hreads hlistening
  rw [hechoes]
  refine ⟨⟨fun hpassed ↦ honly (hverdict.mp hpassed), fun hall ↦ ?_⟩, fun hpassed ↦ ?_⟩
  · obtain ⟨after, hrun, hafter, -⟩ := Behaviour.run_echo [] hmarks hlines hreads hlistening hall
    refine hverdict.mpr ?_
    change run = _ at hrun
    rw [hrun]
    exact passes_of_done (.done hafter)
  · obtain ⟨after, hrun, -, htranscript⟩ :=
      Behaviour.run_echo [] hmarks hlines hreads hlistening (honly (hverdict.mp hpassed))
    have hfinal : finalState Program.echo script options.marks path.displayName =
        (.returned, after) := by
      change (run.1, run.2.emitAll.2.channel) = _
      change run = _ at hrun
      rw [hrun, Console.emitAll_nil]
    have hreport := (logged_of_passed hpassed).2.2.2
    rw [hfinal] at hreport
    rw [hreport, htranscript, transcript_openChannel]
    rfl

/-- Two inputs pass, one of them in another case and the other one as a report of an error. -/
theorem passed_echo_two_cases :
    let script : Script :=
      ⟨none, [.input "Hi\rho".toList, .expect "hI\rHO".toList .caseInsensitive,
        .input "Error: no".toList, .expect "00err".toList .errorSentinel], List.cons_ne_nil _ _⟩
    let report := (logged default Program.echo (.ofString "a.test") script ⟨.standard, none⟩).1
    Script.parse "\"!ChI\rHO\" : \"Hi\rho\"\n00err : \"Error: no\"\n".toList = .ok script ∧
      report.outcome = .passed ∧
      report.transcript = "Test: ## file: a.test\nHi\rho\nError: no\n".toList := by
  intro script report
  have hparse : Script.parse "\"!ChI\rHO\" : \"Hi\rho\"\n00err : \"Error: no\"\n".toList =
      .ok script := by
    decide +kernel
  obtain ⟨hiff, htranscript⟩ := passed_echo_iff default (.ofString "a.test") ⟨.standard, none⟩
    hparse (by decide) (by decide) (by decide)
  have hechoes : List.Forall₂ (Echoes .standard) script.inputs script.expectations :=
    .cons (by decide +kernel) (.cons (by decide +kernel) .nil)
  have hpassed := hiff.mpr hechoes
  exact ⟨hparse, hpassed, (htranscript hpassed).trans (by decide +kernel)⟩

end Run

end Dialogue
