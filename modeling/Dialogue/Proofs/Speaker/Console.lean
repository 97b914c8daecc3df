import Dialogue.Proofs.Speaker.Stage

/-!
# Stages at a console

`Stage.At` ties a stage to a console: where an input is due nothing is held back, and where an
output is due the lines that are held are. Printing a line does what the stage says
(`At.printLine_of_some`, `At.printLine_of_none`), and so does printing several
(`At.printAll_of_some`, `At.printAll_of_none`). The next input is read where one is due
(`At.readLine_case`, `At.readLine_terminator`), and a read before the output is there is refused
(`At.readLine_refused`).
-/

set_option autoImplicit false
set_option relaxedAutoImplicit false

namespace Dialogue

/-- Prints lines one after the other, up to the first that is refused. -/
def Console.printAll (console : Console) : List Text → Except Deviation Unit × Console
  | [] => (.ok (), console)
  | line :: rest =>
    match console.printLine line with
    | (.error deviation, after) => (.error deviation, after)
    | (.ok (), after) => after.printAll rest

/-! ### What is left to be matched -/

namespace Channel

variable {script : Script} {marks : Marks} {steps : List Step} {channel : Channel}

/-- All outputs are matched if no output is left. -/
theorem Faces.outputsMatched_eq_iff (h : channel.Faces script marks steps) :
    channel.outputsMatched = channel.outputTotal ↔ steps.countP Step.isExpect = 0 := by
  have hadd := h.inStep.outputsMatched_add
  rw [h.left] at hadd
  rw [h.inStep.outputTotal_eq, ← hadd]
  omega

/-- A script that is done with has no output left. -/
theorem InStep.outputsMatched_eq (h : channel.InStep script marks)
    (hsent : channel.terminatorSent = true) : channel.outputsMatched = channel.outputTotal := by
  have hadd := h.outputsMatched_add
  rw [h.terminatorSent hsent, List.drop_length, List.countP_nil, Nat.add_zero] at hadd
  rw [h.outputTotal_eq, hadd]

/-- What was shown makes no difference to where a channel stands. -/
theorem InStep.shown (h : channel.InStep script marks) (transcript : Text) (newline : Bool) :
    { channel with transcript := transcript, newlineAllowed := newline }.InStep script marks :=
  ⟨h.steps, h.marks, h.inputsRead, h.outputsMatched, h.turn, h.terminatorSent⟩

theorem Faces.shown (h : channel.Faces script marks steps) (transcript : Text) (newline : Bool) :
    { channel with transcript := transcript, newlineAllowed := newline }.Faces script marks steps :=
  ⟨h.inStep.shown transcript newline, h.failure, h.terminatorSent, h.left⟩

/-- Before an input no output is due. -/
theorem Faces.dueOutput?_eq_none_of_cases {cases : List Script.Case}
    (h : channel.Faces script marks (cases.flatMap Script.Case.steps)) :
    channel.dueOutput? = none := by
  rw [Option.eq_none_iff_forall_ne_some]
  rintro due hdue
  have hturn := turn_of_dueOutput? hdue
  rw [h.turn_eq] at hturn
  cases cases <;> contradiction

theorem InStep.dueOutput?_eq_none (h : channel.InStep script marks)
    (hsent : channel.terminatorSent = true) : channel.dueOutput? = none := by
  rw [Option.eq_none_iff_forall_ne_some]
  rintro due hdue
  have hturn := turn_of_dueOutput? hdue
  rw [h.turn_eq_drained_iff.mpr hsent] at hturn
  contradiction

/-! ### Lines where an output is due -/

section Due

variable {case : Script.Case} {later : List Script.Case} {text : Text}

theorem Faces.pendingSpan_eq_span
    (h : channel.Faces script marks (.expect case.pattern case.mode :: steps)) :
    channel.pendingSpan = case.span := by
  rw [pendingSpan, h.dueOutput?_eq, Script.Case.span]
  cases case.mode <;> rfl

theorem Faces.dueOutput?_ne_loneBreak
    (h : channel.Faces script marks (.expect case.pattern case.mode :: steps))
    (hlone : case.expectation ≠ loneBreak) : channel.dueOutput? ≠ some loneBreak := by
  rw [h.dueOutput?_eq]
  exact fun heq ↦ hlone (Option.some.inj heq)

/-- Lines that make up what is expected are taken. -/
theorem Faces.writeLine_accepted
    (h : channel.Faces script marks
      (.expect case.pattern case.mode :: later.flatMap Script.Case.steps))
    (hmarks : marks.OneLine) (hkept : text.Kept) (hchatter : marks.isChatter text = false)
    (haccepts : case.Accepts text) :
    ∃ after, channel.writeLine (Text.Utf8.encode text) = (.ok (), after) ∧
      after.Faces script marks (later.flatMap Script.Case.steps) ∧
      after.newlineAllowed = false ∧ after.transcript = channel.transcript ++ text ++ ['\n'] := by
  obtain ⟨hne, hlone, htrue⟩ := haccepts
  have haccepted := h.accept text
  have hwrite := h.write_value htrue hkept.unified hchatter fun heq ↦ absurd heq hlone
  have hbreak := write_lineBreak haccepted.failure (haccepted.inStep.marks ▸ hmarks)
    (by simp [haccepted.dueOutput?_eq_none_of_cases]) (.inl rfl)
  refine ⟨_, ?_, haccepted.shown ((channel.accept text).transcript ++ ['\n']) false, rfl, rfl⟩
  rw [writeLine_encode hkept hne, hwrite]
  exact hbreak

/-- Lines that make up anything else are refused. -/
theorem Faces.writeLine_unaccepted
    (h : channel.Faces script marks (.expect case.pattern case.mode :: steps))
    (hmarks : marks.OneLine) (hnewline : channel.newlineAllowed = false)
    (hlone : case.expectation ≠ loneBreak) (hkept : text.Kept)
    (hchatter : marks.isChatter text = false) (hunaccepted : ¬case.Accepts text) :
    ∃ deviation after, channel.writeLine (Text.Utf8.encode text) = (.error deviation, after) := by
  have hleft : channel.outputsMatched ≠ channel.outputTotal := by
    rw [Ne, h.outputsMatched_eq_iff, List.countP_cons_of_pos (by rfl)]
    omega
  have hbreak := write_lineBreak_refused h.failure (h.inStep.marks ▸ hmarks)
    (h.dueOutput?_ne_loneBreak hlone) hnewline hleft
  by_cases hempty : text = []
  · rw [hempty, writeLine_encode_nil]
    exact hbreak
  · by_cases hsingle : text = ['\n']
    · obtain ⟨deviation, after, hwrite⟩ := hbreak
      rw [writeLine_encode hkept hempty, hsingle, hwrite]
      exact ⟨deviation, after, rfl⟩
    · refine writeLine_refused h.failure hkept hempty (h.inStep.marks ▸ hchatter) hsingle
        fun pattern mode hdue ↦ ?_
      obtain ⟨rfl, rfl⟩ := Prod.mk.inj (Option.some.inj (h.dueOutput?_eq.symm.trans hdue))
      rw [← Bool.not_eq_true]
      exact fun htrue ↦ hunaccepted ⟨hempty, hsingle, htrue⟩

end Due

end Channel

/-! ### Stages -/

namespace Stage

/-- A channel waits for an input to be read. -/
structure Listening (script : Script) (marks : Marks) (cases : List Script.Case)
    (channel : Channel) : Prop where
  faces : channel.Faces script marks (cases.flatMap Script.Case.steps)
  newline : channel.newlineAllowed = false
  sound : Sound cases

/-- A channel waits for an output of which some lines are held back. -/
structure Answering (script : Script) (marks : Marks) (case : Script.Case) (held : List Text)
    (later : List Script.Case) (channel : Channel) : Prop where
  faces : channel.Faces script marks
    (.expect case.pattern case.mode :: later.flatMap Script.Case.steps)
  newline : channel.newlineAllowed = false
  sound : Sound (case :: later)
  short : held.length < case.span
  plain : ∀ line ∈ held, line.Plain
  first : ∀ line ∈ held.head?, marks.isChatter line = false

/-- A channel is done with its script. -/
structure Finished (script : Script) (marks : Marks) (channel : Channel) : Prop where
  inStep : channel.InStep script marks
  failure : channel.failure = none
  sent : channel.terminatorSent = true
  newline : channel.newlineAllowed = false

/-- A console stands at a stage of a script. -/
inductive At (script : Script) (marks : Marks) : Stage → Console → Prop
  | listening {cases : List Script.Case} {channel : Channel}
    (h : Listening script marks cases channel) : At script marks (.listening cases) ⟨channel, []⟩
  | answering {case : Script.Case} {held : List Text} {later : List Script.Case}
    {channel : Channel} (h : Answering script marks case held later channel) :
    At script marks (.answering case held later) ⟨channel, Text.Utf8.encode (ended held)⟩
  | done {channel : Channel} (h : Finished script marks channel) :
    At script marks .done ⟨channel, []⟩

/-- The channel waits for what the stage waits for. -/
theorem At.turn_eq {script : Script} {marks : Marks} {stage : Stage} {console : Console}
    (h : stage.At script marks console) : console.channel.turn = stage.turn := by
  cases h with
  | @listening cases _ h =>
    refine h.faces.turn_eq.trans ?_
    cases cases <;> rfl
  | answering h => exact h.faces.turn_eq
  | done h => exact h.inStep.turn_eq_drained_iff.mpr h.sent

/-! ### Printing -/

variable {script : Script} {marks : Marks} {channel : Channel} {line : Text}

theorem Listening.printLine_taken {cases : List Script.Case} (hmarks : marks.OneLine)
    (h : Listening script marks cases channel) (hline : line.Plain)
    (hheard : marks.isChatter line = true ∨ line = [] ∧ cases = []) :
    ∃ after, (⟨channel, []⟩ : Console).printLine line = (.ok (), ⟨after, []⟩) ∧
      Listening script marks cases after := by
  have hmarks' : channel.marks = marks := h.faces.inStep.marks
  have hmatched : channel.outputsMatched = channel.outputTotal ↔ cases = [] := by
    rw [h.faces.outputsMatched_eq_iff, (Script.countP_flatMap_steps cases).2,
      List.length_eq_zero_iff]
  rw [← hmatched, ← hmarks'] at hheard
  obtain ⟨transcript, hprint⟩ := Channel.printLine_quiet_taken h.faces.failure (hmarks' ▸ hmarks)
    h.faces.dueOutput?_eq_none_of_cases hline hheard
  exact ⟨_, hprint, h.faces.shown transcript false, rfl, h.sound⟩

theorem Listening.printLine_refused {cases : List Script.Case} (hmarks : marks.OneLine)
    (h : Listening script marks cases channel) (hline : line.Plain)
    (hheard : ¬(marks.isChatter line = true ∨ line = [] ∧ cases = [])) :
    ∃ deviation after, (⟨channel, []⟩ : Console).printLine line = (.error deviation, after) := by
  have hmarks' : channel.marks = marks := h.faces.inStep.marks
  have hmatched : channel.outputsMatched = channel.outputTotal ↔ cases = [] := by
    rw [h.faces.outputsMatched_eq_iff, (Script.countP_flatMap_steps cases).2,
      List.length_eq_zero_iff]
  rw [not_or, not_and, ← hmatched, ← hmarks', Bool.not_eq_true] at hheard
  exact Channel.printLine_quiet_refused h.faces.failure (hmarks' ▸ hmarks)
    h.faces.dueOutput?_eq_none_of_cases h.newline hline hheard.1 hheard.2

theorem Finished.printLine_taken (hmarks : marks.OneLine) (h : Finished script marks channel)
    (hline : line.Plain) (hheard : marks.isChatter line = true ∨ line = []) :
    ∃ after, (⟨channel, []⟩ : Console).printLine line = (.ok (), ⟨after, []⟩) ∧
      Finished script marks after := by
  have hmarks' : channel.marks = marks := h.inStep.marks
  have hmatched := h.inStep.outputsMatched_eq h.sent
  rw [← hmarks'] at hheard
  obtain ⟨transcript, hprint⟩ := Channel.printLine_quiet_taken h.failure (hmarks' ▸ hmarks)
    (h.inStep.dueOutput?_eq_none h.sent) hline (hheard.imp_right fun hempty ↦ ⟨hempty, hmatched⟩)
  exact ⟨_, hprint, h.inStep.shown transcript false, h.failure, h.sent, rfl⟩

theorem Finished.printLine_refused (hmarks : marks.OneLine) (h : Finished script marks channel)
    (hline : line.Plain) (hheard : ¬(marks.isChatter line = true ∨ line = [])) :
    ∃ deviation after, (⟨channel, []⟩ : Console).printLine line = (.error deviation, after) := by
  have hmarks' : channel.marks = marks := h.inStep.marks
  rw [not_or, ← hmarks', Bool.not_eq_true] at hheard
  exact Channel.printLine_quiet_refused h.failure (hmarks' ▸ hmarks)
    (h.inStep.dueOutput?_eq_none h.sent) h.newline hline hheard.1
    fun hempty ↦ absurd hempty hheard.2

namespace Answering

variable {case : Script.Case} {held : List Text} {later : List Script.Case}

/-- Printing a line behind lines that are held. -/
theorem printLine_eq (channel : Channel) (held : List Text) (line : Text) :
    (⟨channel, Text.Utf8.encode (ended held)⟩ : Console).printLine line =
      channel.drain (Text.Utf8.encode (ended held ++ line) ++ [newlineByte]) := by
  rw [Console.printLine, Console.offer, encode_ended_append]

/-- A remark in front of an output is taken by itself. -/
theorem printLine_chatter (hmarks : marks.OneLine)
    (h : Answering script marks case [] later channel) (hline : '\n' ∉ line) (hkept : line.Kept)
    (hchatter : marks.isChatter line = true) :
    ∃ after, (⟨channel, Text.Utf8.encode (ended [])⟩ : Console).printLine line =
        (.ok (), ⟨after, Text.Utf8.encode (ended [])⟩) ∧
      Answering script marks case [] later after := by
  have hmarks' : channel.marks = marks := h.faces.inStep.marks
  have honeLine : channel.marks.OneLine := hmarks' ▸ hmarks
  obtain ⟨transcript, hwrite⟩ := Channel.writeLine_chatter h.faces.failure honeLine
    (h.faces.dueOutput?_ne_loneBreak (h.sound case List.mem_cons_self)) hkept
    (hmarks'.symm ▸ hchatter)
  have hspan : channel.spanOf (Text.Utf8.encode line ++ [newlineByte]) = line.count '\n' + 1 := by
    rw [Channel.spanOf_encode_newline honeLine, hmarks', hchatter, if_pos rfl,
      List.count_eq_zero_of_not_mem hline]
  refine ⟨_, (Channel.drain_whole hspan).trans ?_,
    h.faces.shown transcript false, rfl, h.sound, h.short, h.plain, h.first⟩
  rw [hwrite]
  rfl

/-- Any other line goes with the lines that are held, and together they are no chatter. -/
theorem spanOf_eq (hmarks : marks.OneLine) (h : Answering script marks case held later channel)
    (hremark : ¬(held = [] ∧ marks.isChatter line = true)) :
    marks.isChatter (ended held ++ line) = false ∧
      channel.spanOf (Text.Utf8.encode (ended held ++ line) ++ [newlineByte]) = case.span := by
  have hmarks' : channel.marks = marks := h.faces.inStep.marks
  have hchatter := isChatter_ended_append hmarks h.first fun hempty ↦
    Bool.eq_false_iff.mpr fun htrue ↦ hremark ⟨hempty, htrue⟩
  refine ⟨hchatter, ?_⟩
  rw [Channel.spanOf_encode_newline (hmarks' ▸ hmarks), hmarks', hchatter, if_neg (by simp),
    h.faces.pendingSpan_eq_span]

/-- A line that does not complete the output is held. -/
theorem printLine_held (hmarks : marks.OneLine) (h : Answering script marks case held later channel)
    (hline : line.Plain) (hremark : ¬(held = [] ∧ marks.isChatter line = true))
    (hshort : held.length + 1 < case.span) :
    (⟨channel, Text.Utf8.encode (ended held)⟩ : Console).printLine line =
        (.ok (), ⟨channel, Text.Utf8.encode (ended (held ++ [line]))⟩) ∧
      Answering script marks case (held ++ [line]) later channel := by
  obtain ⟨hchatter, -⟩ := h.spanOf_eq hmarks hremark
  have hmarks' : channel.marks = marks := h.faces.inStep.marks
  have hpending : Text.Utf8.encode (ended held ++ line) ++ [newlineByte] =
      Text.Utf8.encode (ended (held ++ [line])) := by
    rw [ended_append, Text.Utf8.encode_append (ended held ++ line)]
    rfl
  refine ⟨?_, h.faces, h.newline, h.sound, ?_, ?_, fun first hhead ↦ ?_⟩
  · rw [printLine_eq, ← hpending]
    refine Channel.drain_held (hmarks' ▸ hmarks) (hmarks' ▸ hchatter) ?_
    rwa [count_ended_append h.plain hline, h.faces.pendingSpan_eq_span]
  · rwa [List.length_append]
  · exact List.forall_mem_append.mpr ⟨h.plain, List.forall_mem_singleton.mpr hline⟩
  · cases held with
    | nil =>
      obtain rfl : line = first := Option.some.inj hhead
      exact hchatter
    | cons other held => exact h.first first hhead

/-- A line that completes the output is written with the lines that are held. -/
theorem printLine_complete (hmarks : marks.OneLine)
    (h : Answering script marks case held later channel) (hline : line.Plain)
    (hremark : ¬(held = [] ∧ marks.isChatter line = true))
    (hlong : ¬held.length + 1 < case.span) :
    (⟨channel, Text.Utf8.encode (ended held)⟩ : Console).printLine line =
      ((channel.writeLine (Text.Utf8.encode (ended held ++ line))).1,
        ⟨(channel.writeLine (Text.Utf8.encode (ended held ++ line))).2, []⟩) := by
  obtain ⟨-, hspan⟩ := h.spanOf_eq hmarks hremark
  have hheld := h.short
  rw [printLine_eq]
  refine Channel.drain_whole ?_
  rw [hspan, count_ended_append h.plain hline]
  omega

theorem printLine_accepted (hmarks : marks.OneLine)
    (h : Answering script marks case held later channel) (hline : line.Plain)
    (hremark : ¬(held = [] ∧ marks.isChatter line = true))
    (hlong : ¬held.length + 1 < case.span) (haccepts : case.Accepts (ended held ++ line)) :
    ∃ after, (⟨channel, Text.Utf8.encode (ended held)⟩ : Console).printLine line =
        (.ok (), ⟨after, []⟩) ∧ Listening script marks later after := by
  obtain ⟨after, hwrite, hafter, hbreak, -⟩ := h.faces.writeLine_accepted hmarks
    (.of_notMem (return_notMem_ended_append h.plain hline)) (h.spanOf_eq hmarks hremark).1 haccepts
  refine ⟨after, ?_, hafter, hbreak, fun other hother ↦
    h.sound other (List.mem_cons_of_mem _ hother)⟩
  rw [h.printLine_complete hmarks hline hremark hlong, hwrite]

theorem printLine_refused (hmarks : marks.OneLine)
    (h : Answering script marks case held later channel) (hline : line.Plain)
    (hremark : ¬(held = [] ∧ marks.isChatter line = true))
    (hlong : ¬held.length + 1 < case.span) (hunaccepted : ¬case.Accepts (ended held ++ line)) :
    ∃ deviation after, (⟨channel, Text.Utf8.encode (ended held)⟩ : Console).printLine line =
      (.error deviation, after) := by
  obtain ⟨deviation, after, hwrite⟩ := h.faces.writeLine_unaccepted hmarks h.newline
    (h.sound case List.mem_cons_self) (.of_notMem (return_notMem_ended_append h.plain hline))
    (h.spanOf_eq hmarks hremark).1 hunaccepted
  refine ⟨deviation, ⟨after, []⟩, ?_⟩
  rw [h.printLine_complete hmarks hline hremark hlong, hwrite]

end Answering

section At

variable {stage next : Stage} {console : Console}

/-- A line that is heard moves the console on to the next stage. -/
theorem At.printLine_of_some (hmarks : marks.OneLine) (h : stage.At script marks console)
    (hline : line.Plain) (hhear : stage.hear marks line = some next) :
    ∃ after, console.printLine line = (.ok (), after) ∧ next.At script marks after := by
  cases h with
  | listening h =>
    simp only [hear, Option.ite_none_right_eq_some, Option.some.injEq] at hhear
    obtain ⟨hheard, rfl⟩ := hhear
    obtain ⟨after, hprint, hafter⟩ := h.printLine_taken hmarks hline hheard
    exact ⟨_, hprint, .listening hafter⟩
  | answering h =>
    simp only [hear] at hhear
    split_ifs at hhear with hremark hshort haccepts
    · obtain ⟨rfl, hchatter⟩ := hremark
      obtain rfl := Option.some.inj hhear
      obtain ⟨after, hprint, hafter⟩ := h.printLine_chatter hmarks hline.1 (.of_notMem hline.2)
        hchatter
      exact ⟨_, hprint, .answering hafter⟩
    · obtain rfl := Option.some.inj hhear
      obtain ⟨hprint, hafter⟩ := h.printLine_held hmarks hline hremark hshort
      exact ⟨_, hprint, .answering hafter⟩
    · obtain rfl := Option.some.inj hhear
      obtain ⟨after, hprint, hafter⟩ := h.printLine_accepted hmarks hline hremark hshort haccepts
      exact ⟨_, hprint, .listening hafter⟩
  | done h =>
    simp only [hear, Option.ite_none_right_eq_some, Option.some.injEq] at hhear
    obtain ⟨hheard, rfl⟩ := hhear
    obtain ⟨after, hprint, hafter⟩ := h.printLine_taken hmarks hline hheard
    exact ⟨_, hprint, .done hafter⟩

/-- A line that is not heard is refused. -/
theorem At.printLine_of_none (hmarks : marks.OneLine) (h : stage.At script marks console)
    (hline : line.Plain) (hhear : stage.hear marks line = none) :
    ∃ deviation after, console.printLine line = (.error deviation, after) := by
  cases h with
  | listening h =>
    simp only [hear, ite_eq_right_iff, reduceCtorEq, imp_false] at hhear
    exact h.printLine_refused hmarks hline hhear
  | answering h =>
    simp only [hear] at hhear
    split_ifs at hhear with hremark hshort haccepts
    exact h.printLine_refused hmarks hline hremark hshort haccepts
  | done h =>
    simp only [hear, ite_eq_right_iff, reduceCtorEq, imp_false] at hhear
    exact h.printLine_refused hmarks hline hhear

/-- Lines that are heard are printed. -/
theorem At.printAll_of_some {lines : List Text} (hmarks : marks.OneLine)
    (h : stage.At script marks console) (hplain : ∀ line ∈ lines, line.Plain)
    (hhear : stage.hearAll marks lines = some next) :
    ∃ after, console.printAll lines = (.ok (), after) ∧ next.At script marks after := by
  induction lines generalizing stage console with
  | nil =>
    obtain rfl := Option.some.inj hhear
    exact ⟨console, rfl, h⟩
  | cons line lines ih =>
    obtain ⟨hline, hlines⟩ := List.forall_mem_cons.mp hplain
    obtain ⟨between, hfirst, hrest⟩ := Option.bind_eq_some_iff.mp hhear
    obtain ⟨after, hprint, hafter⟩ := h.printLine_of_some hmarks hline hfirst
    obtain ⟨last, hlast⟩ := ih hafter hlines hrest
    exact ⟨last, by rwa [Console.printAll, hprint]⟩

/-- Among lines that are not heard one is refused. -/
theorem At.printAll_of_none {lines : List Text} (hmarks : marks.OneLine)
    (h : stage.At script marks console) (hplain : ∀ line ∈ lines, line.Plain)
    (hhear : stage.hearAll marks lines = none) :
    ∃ deviation after, console.printAll lines = (.error deviation, after) := by
  induction lines generalizing stage console with
  | nil => contradiction
  | cons line lines ih =>
    obtain ⟨hline, hlines⟩ := List.forall_mem_cons.mp hplain
    cases hfirst : stage.hear marks line with
    | none =>
      obtain ⟨deviation, after, hprint⟩ := h.printLine_of_none hmarks hline hfirst
      exact ⟨deviation, after, by rw [Console.printAll, hprint]⟩
    | some between =>
      rw [hearAll, hfirst, Option.bind_some] at hhear
      obtain ⟨after, hprint, hafter⟩ := h.printLine_of_some hmarks hline hfirst
      obtain ⟨deviation, last, hlast⟩ := ih hafter hlines hhear
      exact ⟨deviation, last, by rwa [Console.printAll, hprint]⟩

end At

/-! ### Reading -/

section Reading

variable {case : Script.Case} {later : List Script.Case} {console : Console}

/-- A read leaves it open as before whether a line break may follow. -/
theorem newlineAllowed_read (channel : Channel) :
    channel.read.2.newlineAllowed = channel.newlineAllowed := by
  have htransition := Channel.transition_read channel
  generalize channel.read.2 = after at htransition ⊢
  generalize Channel.Answer.ofLine channel.read.1 = answer at htransition
  cases htransition <;> rfl

/-- The input of the next case is read. -/
theorem At.readLine_case (h : At script marks (.listening (case :: later)) console) :
    ∃ after, console.readLine = (.ok case.input, after) ∧
      At script marks (.answering case [] later) after := by
  cases h with
  | @listening _ channel h =>
    obtain ⟨after, hread, hfaces⟩ := h.faces.read_input
    have hnewline := newlineAllowed_read channel
    rw [hread] at hnewline
    refine ⟨⟨after, []⟩, by rw [Console.readLine_nil, hread], ?_⟩
    exact .answering ⟨hfaces, hnewline.trans h.newline, h.sound, case.span_pos, by simp, by simp⟩

/-- Behind the last case the terminator is read. -/
theorem At.readLine_terminator (h : At script marks (.listening []) console) :
    ∃ after, console.readLine = (.ok terminator, after) ∧ At script marks .done after := by
  cases h with
  | @listening _ channel h =>
    obtain ⟨after, hread, hinStep, hfailure, hsent⟩ := h.faces.read_terminator
    have hnewline := newlineAllowed_read channel
    rw [hread] at hnewline
    refine ⟨⟨after, []⟩, by rw [Console.readLine_nil, hread], ?_⟩
    exact .done ⟨hinStep, hfailure, hsent, hnewline.trans h.newline⟩

/-- Too few lines are not what is expected. -/
theorem Answering.unaccepted {held : List Text} {last : Text} {channel : Channel}
    (h : Answering script marks case (held ++ [last]) later channel) :
    ¬case.Accepts (ended held ++ last) := by
  intro haccepts
  have hshort := h.short
  obtain ⟨hplain, hlast⟩ := List.forall_mem_append.mp h.plain
  have hcount := count_ended_append hplain (hlast last List.mem_cons_self)
  rw [List.length_append] at hshort
  by_cases hmode : case.mode = .errorSentinel
  · rw [Script.Case.span, hmode] at hshort
    exact absurd hshort (by simp)
  · have hspan := haccepts.count_eq hmode
    rw [hcount] at hspan
    exact absurd hshort (by simp [hspan])

/-- An output of which only some lines are there is refused when it goes out. -/
theorem Answering.emitAll_refused {init : List Text} {last : Text} {channel : Channel}
    (hmarks : marks.OneLine) (h : Answering script marks case (init ++ [last]) later channel) :
    ∃ deviation after, (⟨channel, Text.Utf8.encode (ended (init ++ [last]))⟩ : Console).emitAll =
      (.error deviation, after) := by
  obtain ⟨hplain, hlast⟩ := List.forall_mem_append.mp h.plain
  have hline := hlast last List.mem_cons_self
  have hmarks' : channel.marks = marks := h.faces.inStep.marks
  have hchatter : marks.isChatter (ended init ++ last) = false := by
    refine isChatter_ended_append hmarks (fun line hhead ↦ h.first line ?_) fun hempty ↦ ?_
    · rw [List.head?_append, Option.mem_def.mp hhead]
      rfl
    · subst hempty
      exact h.first last rfl
  have hpending : Text.Utf8.encode (ended (init ++ [last])) =
      Text.Utf8.encode (ended init ++ last) ++ [newlineByte] := by
    rw [ended_append, Text.Utf8.encode_append (ended init ++ last)]
    rfl
  have hshort : (ended init ++ last).count '\n' + 1 < channel.pendingSpan := by
    rw [count_ended_append hplain hline, h.faces.pendingSpan_eq_span]
    simpa using h.short
  obtain ⟨deviation, after, hwrite⟩ := h.faces.writeLine_unaccepted hmarks h.newline
    (h.sound case List.mem_cons_self) (.of_notMem (return_notMem_ended_append hplain hline))
    hchatter h.unaccepted
  refine ⟨deviation, ⟨after, []⟩, ?_⟩
  rw [hpending, Console.emitAll_held (hmarks' ▸ hmarks) (hmarks' ▸ hchatter) hshort, hwrite]

/-- Before the output is there, a read is refused. -/
theorem At.readLine_refused {held : List Text} (hmarks : marks.OneLine)
    (h : At script marks (.answering case held later) console) :
    ∃ deviation after, console.readLine = (.error deviation, after) := by
  cases h with
  | @answering _ _ _ channel h =>
    rcases List.eq_nil_or_concat' held with rfl | ⟨init, last, rfl⟩
    · have hturn : channel.turn = .awaitingWrite := h.faces.turn_eq
      change ∃ deviation after, (⟨channel, []⟩ : Console).readLine = (.error deviation, after)
      rw [Console.readLine_nil, Channel.read, h.faces.failure]
      simp only [hturn]
      exact ⟨_, _, rfl⟩
    · -- The lines that are held go out before the read.
      obtain ⟨deviation, after, hemit⟩ := h.emitAll_refused hmarks
      exact ⟨deviation, after, by rw [Console.readLine, hemit]⟩

end Reading

end Stage

end Dialogue
