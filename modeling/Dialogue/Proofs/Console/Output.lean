import Dialogue.Proofs.Channel.Left
import Dialogue.Proofs.Console.Lines
import Dialogue.Proofs.Text.LowerCase
import Dialogue.Proofs.Text.Utf8

/-!
# Outputs at a console

An output fits the pattern that is due if it satisfies it, reaches the channel as it stands and
cannot be taken for anything else (`Output.Fits`); outputs without carriage returns that do so suit
the pattern (`Output.Suits`). It has as many lines as the pattern spans (`pendingSpan_eq`), so that
the console gives it to the channel in one piece: as soon as it is printed as a line (`drain_line`),
or when everything that is held back must go out (`emitAll_bare`). A console settles with the steps
that are left once that has happened (`Console.Settles`). Giving an output that fits takes one
expected output away from them (`Console.perform_output`), and reading takes one input away
(`Settles.perform_read`).
-/

set_option autoImplicit false
set_option relaxedAutoImplicit false

namespace Dialogue

/-! ### Outputs -/

/-- How a program gives an output. -/
inductive Output where
  /-- As a line, with a line break behind it. -/
  | line (text : Text)
  /-- With no line break behind it. -/
  | bare (text : Text)
  deriving Repr, DecidableEq, Inhabited

namespace Output

/-- What is given. -/
def text : Output → Text
  | line text => text
  | bare text => text

/-- What a program does to give an output. -/
def action : Output → Console.Action
  | line text => .printLine text
  | bare text => .write (Text.Utf8.encode text)

/-- An output satisfies a pattern under a mode, and it is not empty, no chatter, and no line break
in parts or as a whole where the console could not tell. -/
structure Suits (marks : Marks) (output : Output) (expectation : Text × MatchMode) : Prop where
  accepts : expectation.2.accepts expectation.1 output.text = true
  ne_nil : output.text ≠ []
  noReturn : '\r' ∉ output.text
  noMark : ¬marks.BorneBy output.text
  sentinel : expectation.2 = .errorSentinel → '\n' ∉ output.text
  caseInsensitive : expectation.2 = .caseInsensitive → output.text ≠ ['\n']
  bare : ∀ text, output = .bare text → text.getLast? ≠ some '\n'

/-- An output satisfies a pattern under a mode and loses no carriage returns on its way, and it is
not empty, no chatter, and no line break in parts or as a whole where the console could not tell. -/
structure Fits (marks : Marks) (output : Output) (expectation : Text × MatchMode) : Prop where
  accepts : expectation.2.accepts expectation.1 output.text = true
  ne_nil : output.text ≠ []
  unified : output.text.unifyBreaks = output.text
  noMark : ¬marks.BorneBy output.text
  sentinel : expectation.2 = .errorSentinel → '\n' ∉ output.text
  caseInsensitive : expectation.2 = .caseInsensitive → output.text ≠ ['\n']
  line : ∀ text, output = .line text → text.trimReturns = text
  bare : ∀ text, output = .bare text → text.getLast? ≠ some '\n'

variable {marks : Marks} {output : Output} {pattern : Text} {mode : MatchMode}

/-- Without carriage returns none are lost. -/
theorem Suits.fits {expectation : Text × MatchMode} (h : output.Suits marks expectation) :
    output.Fits marks expectation where
  accepts := h.accepts
  ne_nil := h.ne_nil
  unified := Text.unifyBreaks_of_notMem h.noReturn
  noMark := h.noMark
  sentinel := h.sentinel
  caseInsensitive := h.caseInsensitive
  line := by
    rintro text rfl
    exact Text.trimReturns_of_notMem h.noReturn
  bare := h.bare

namespace Fits

theorem isChatter_eq_false {expectation : Text × MatchMode} (h : output.Fits marks expectation) :
    marks.isChatter output.text = false := by
  rw [← Bool.not_eq_true, Marks.isChatter_iff]
  exact h.noMark

/-- A lone line break fits a pattern only if it is compared as it stands. -/
theorem mode_eq_exact (h : output.Fits marks (pattern, mode)) (hlone : output.text = ['\n']) :
    mode = .exact := by
  cases mode with
  | exact => rfl
  | caseInsensitive => exact absurd hlone (h.caseInsensitive rfl)
  | errorSentinel =>
    have hnewline := h.sentinel rfl
    rw [hlone] at hnewline
    exact absurd List.mem_cons_self hnewline

end Fits

end Output

/-! ### At the channel -/

namespace Channel.Faces

variable {script : Script} {marks : Marks} {steps : List Step} {channel : Channel}
  {pattern : Text} {mode : MatchMode} {output : Output}

/-- An output that fits has as many lines as the pattern that is due. -/
theorem pendingSpan_eq (h : channel.Faces script marks (.expect pattern mode :: steps))
    (hfits : output.Fits marks (pattern, mode)) :
    channel.pendingSpan = output.text.count '\n' + 1 := by
  have haccepts := hfits.accepts
  rw [pendingSpan, h.dueOutput?_eq]
  cases mode with
  | exact =>
    have heq : output.text = pattern := beq_iff_eq.mp haccepts
    rw [heq]
  | caseInsensitive =>
    have heq : output.text.lowerCase = pattern.lowerCase := beq_iff_eq.mp haccepts
    have hnewline : '\n'.toNat < 0x41 := by decide
    change pattern.count '\n' + 1 = output.text.count '\n' + 1
    rw [← Text.count_lowerCase hnewline pattern, ← heq, Text.count_lowerCase hnewline]
  | errorSentinel => rw [List.count_eq_zero_of_not_mem (hfits.sentinel rfl)]

/-- An output that fits is accepted. -/
theorem write_output (h : channel.Faces script marks (.expect pattern mode :: steps))
    (hfits : output.Fits marks (pattern, mode)) :
    channel.write output.text = (.ok (), channel.accept output.text) :=
  h.write_value hfits.accepts hfits.unified hfits.isChatter_eq_false hfits.mode_eq_exact

/-- Behind an output that is not followed by another one, no output is due. -/
theorem dueOutput?_eq_none (h : channel.Faces script marks steps)
    (hnext : ∀ step ∈ steps.head?, step.isExpect = false) : channel.dueOutput? = none := by
  rw [Option.eq_none_iff_forall_ne_some]
  rintro ⟨pattern, mode⟩ hdue
  have hcurrent := current?_of_dueOutput? hdue
  rw [h.current?_eq] at hcurrent
  exact Bool.noConfusion (hnext _ hcurrent)

/-- The bytes of an output that fits have the span of the pattern that is due, with or without a
line break behind them. -/
theorem spanOf_encode (h : channel.Faces script marks (.expect pattern mode :: steps))
    (hmarks : marks.OneLine) (hfits : output.Fits marks (pattern, mode)) :
    channel.spanOf (Text.Utf8.encode output.text) = output.text.count '\n' + 1 ∧
      channel.spanOf (Text.Utf8.encode output.text ++ [newlineByte]) =
        output.text.count '\n' + 1 := by
  have hchatter := hfits.isChatter_eq_false
  have hspan := h.pendingSpan_eq hfits
  constructor
  · rw [spanOf, Text.Utf8.decodeLossy_encode, h.inStep.marks, hchatter]
    exact hspan
  · rw [spanOf_encode_newline (h.inStep.marks ▸ hmarks), h.inStep.marks, hchatter]
    exact hspan

/-- An output that fits is taken with the line break behind it. -/
theorem drain_line {text : Text} (h : channel.Faces script marks (.expect pattern mode :: steps))
    (hmarks : marks.OneLine) (hfits : (Output.line text).Fits marks (pattern, mode))
    (hnext : ∀ step ∈ steps.head?, step.isExpect = false) :
    ∃ after, channel.drain (Text.Utf8.encode text ++ [newlineByte]) = (.ok (), ⟨after, []⟩) ∧
      after.Faces script marks steps := by
  have haccepted := h.accept text
  -- The line break is a request of its own, made when the output has been accepted.
  obtain ⟨after, hnewline, hafter⟩ :=
    haccepted.write_newline hmarks rfl (haccepted.dueOutput?_eq_none hnext)
  have hne : text ≠ [] := hfits.ne_nil
  have haccept : channel.write text = (.ok (), channel.accept text) := h.write_output hfits
  have hwrite : channel.writeLine (Text.Utf8.encode text) = (.ok (), after) := by
    simp only [writeLine, Text.Utf8.decodeLossy_encode, hfits.line text rfl, if_neg hne, haccept]
    exact hnewline
  have hspan : channel.spanOf (Text.Utf8.encode text ++ [newlineByte]) = text.count '\n' + 1 :=
    (h.spanOf_encode hmarks hfits).2
  refine ⟨after, ?_, hafter⟩
  rw [drain_whole hspan, hwrite]

/-- An output that fits is held back without a line break behind it. -/
theorem drain_bare (h : channel.Faces script marks (.expect pattern mode :: steps))
    (hmarks : marks.OneLine) (hfits : output.Fits marks (pattern, mode)) :
    channel.drain (Text.Utf8.encode output.text) =
      (.ok (), ⟨channel, Text.Utf8.encode output.text⟩) := by
  refine drain_of_cutLines_none (cutLines_eq_none ?_)
  rw [(h.spanOf_encode hmarks hfits).1]
  exact Nat.lt_succ_of_le (Nat.le_of_eq (Text.Utf8.count_encode output.text))

/-- An output that fits is taken with everything that goes out. -/
theorem emitAll_bare (h : channel.Faces script marks (.expect pattern mode :: steps))
    (hmarks : marks.OneLine) (hfits : output.Fits marks (pattern, mode))
    (hlast : output.text.getLast? ≠ some '\n') :
    (⟨channel, Text.Utf8.encode output.text⟩ : Console).emitAll =
      (.ok (), ⟨channel.accept output.text, []⟩) := by
  have hne : Text.Utf8.encode output.text ≠ [] := Text.Utf8.encode_eq_nil_iff.not.mpr hfits.ne_nil
  have hend : (Text.Utf8.encode output.text).getLast? ≠ some newlineByte :=
    Text.Utf8.getLast?_encode_eq_some_iff.not.mpr hlast
  simp only [Console.emitAll, Console.drain, h.drain_bare hmarks hfits, if_neg hne, if_neg hend,
    Text.Utf8.decodeLossy_encode, h.write_output hfits]

end Channel.Faces

/-! ### At the console -/

namespace Console

/-- All that is held back can go out, and then these steps are left. -/
def Settles (script : Script) (marks : Marks) (steps : List Step) (console : Console) : Prop :=
  ∃ after, console.emitAll = (.ok (), ⟨after, []⟩) ∧ after.Faces script marks steps

variable {script : Script} {marks : Marks} {steps : List Step} {channel : Channel}

theorem settles_of_faces (h : channel.Faces script marks steps) :
    (⟨channel, []⟩ : Console).Settles script marks steps :=
  ⟨channel, emitAll_nil channel, h⟩

/-- An output that fits takes the expected output away. -/
theorem perform_output {pattern : Text} {mode : MatchMode} {output : Output}
    (h : channel.Faces script marks (.expect pattern mode :: steps)) (hmarks : marks.OneLine)
    (hfits : output.Fits marks (pattern, mode))
    (hnext : ∀ step ∈ steps.head?, step.isExpect = false) :
    ∃ after, (⟨channel, []⟩ : Console).perform output.action = (.done, after) ∧
      after.Settles script marks steps := by
  cases output with
  | line text =>
    obtain ⟨after, hdrain, hafter⟩ := h.drain_line hmarks hfits hnext
    refine ⟨⟨after, []⟩, ?_, settles_of_faces hafter⟩
    simp only [Output.action, perform, printLine, offer, List.nil_append]
    rw [hdrain]
    rfl
  | bare text =>
    have hne : Text.Utf8.encode text ≠ [] := Text.Utf8.encode_eq_nil_iff.not.mpr hfits.ne_nil
    have hdrain := h.drain_bare hmarks hfits
    change channel.drain (Text.Utf8.encode text) = _ at hdrain
    refine ⟨⟨channel, Text.Utf8.encode text⟩, ?_, channel.accept text,
      h.emitAll_bare hmarks hfits (hfits.bare text rfl), h.accept text⟩
    simp only [Output.action, perform, writeBytes, offer, List.nil_append, if_neg hne]
    rw [hdrain]
    rfl

namespace Settles

variable {console : Console}

/-- Reading takes the input away that is left. -/
theorem perform_read {line : Text} (h : console.Settles script marks (.input line :: steps)) :
    ∃ after, console.perform .read = (.line line, ⟨after, []⟩) ∧
      after.Faces script marks steps := by
  obtain ⟨settled, hemit, hfaces⟩ := h
  obtain ⟨after, hread, hafter⟩ := hfaces.read_input
  refine ⟨after, ?_, hafter⟩
  simp only [perform, readLine, hemit, hread]
  rfl

/-- Behind the last step the terminator is read. -/
theorem perform_read_terminator (h : console.Settles script marks []) :
    ∃ after, console.perform .read = (.line terminator, ⟨after, []⟩) ∧
      after.InStep script marks ∧ after.failure = none ∧ after.terminatorSent = true := by
  obtain ⟨settled, hemit, hfaces⟩ := h
  obtain ⟨after, hread, hafter⟩ := hfaces.read_terminator
  refine ⟨after, ?_, hafter⟩
  simp only [perform, readLine, hemit, hread]
  rfl

end Settles

end Console

end Dialogue
