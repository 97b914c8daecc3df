import Dialogue.Proofs.Channel.Chatter
import Dialogue.Proofs.Channel.InStep
import Dialogue.Proofs.Text.Lines

/-!
# What is left of a script

A channel in step with its script, on which nothing has been refused, faces the steps that are left
(`Channel.Faces`). The first of them says what the channel takes next: an input is read
(`Faces.read_input`), an output that satisfies the pattern is accepted (`Faces.write_value`), and
behind the last step the terminator is read (`Faces.read_terminator`). Each takes that one step away
from what is left. The line break behind an output takes nothing away (`Faces.write_newline`).
-/

set_option autoImplicit false
set_option relaxedAutoImplicit false

namespace Dialogue.Channel

/-- Nothing has been refused, the terminator is still to come, and these steps come before it. -/
structure Faces (script : Script) (marks : Marks) (steps : List Step) (channel : Channel) :
    Prop where
  inStep : channel.InStep script marks
  failure : channel.failure = none
  terminatorSent : channel.terminatorSent = false
  left : script.steps.drop channel.consumed = steps

theorem faces_start (script : Script) (marks : Marks) :
    (start script marks).Faces script marks script.steps :=
  ⟨inStep_start script marks, rfl, rfl, rfl⟩

namespace Faces

variable {script : Script} {marks : Marks} {steps : List Step} {channel : Channel}

/-- A note leaves all steps where they are. -/
theorem note (h : channel.Faces script marks steps) (line : Text) :
    (channel.note line).Faces script marks steps :=
  ⟨h.inStep.serve (.note line), h.failure, h.terminatorSent, h.left⟩

theorem current?_eq (h : channel.Faces script marks steps) : channel.current? = steps.head? := by
  rw [h.inStep.current?_eq, ← List.head?_drop, h.left]

theorem turn_eq (h : channel.Faces script marks steps) :
    channel.turn = turnAt steps.head? false := by
  rw [h.inStep.turn, h.current?_eq, h.terminatorSent]

/-- Behind the step that is done, the others are left. -/
theorem drop_succ {step : Step} (h : channel.Faces script marks (step :: steps)) :
    script.steps.drop (channel.consumed + 1) = steps := by
  rw [← List.tail_drop, h.left, List.tail_cons]

/-- An input that is left is read. -/
theorem read_input {line : Text} (h : channel.Faces script marks (.input line :: steps)) :
    ∃ after, channel.read = (.ok line, after) ∧ after.Faces script marks steps := by
  have hcurrent : channel.current? = some (.input line) := h.current?_eq
  have hturn : channel.turn = .awaitingRead := h.turn_eq
  have hconsumed : channel.inputsRead + 1 + channel.outputsMatched = channel.consumed + 1 :=
    Nat.add_right_comm _ _ _
  refine ⟨{ channel with inputsRead := channel.inputsRead + 1 }.passTurn, ?_,
    h.inStep.input hcurrent, h.failure, h.terminatorSent, ?_⟩
  · rw [read, h.failure]
    simp only [hturn, hcurrent]
  · change script.steps.drop (channel.inputsRead + 1 + channel.outputsMatched) = steps
    rw [hconsumed, h.drop_succ]

/-- Behind the last step the terminator is read, and then the script is done with. -/
theorem read_terminator (h : channel.Faces script marks []) :
    ∃ after, channel.read = (.ok Dialogue.terminator, after) ∧ after.InStep script marks ∧
      after.failure = none ∧ after.terminatorSent = true := by
  have hcurrent : channel.current? = none := h.current?_eq
  have hturn : channel.turn = .awaitingRead := h.turn_eq
  refine ⟨{ channel with terminatorSent := true }.passTurn, ?_,
    h.inStep.terminator hturn (by simp [hcurrent]), h.failure, rfl⟩
  rw [read, h.failure]
  simp only [hturn, hcurrent]

theorem dueOutput?_eq {pattern : Text} {mode : MatchMode}
    (h : channel.Faces script marks (.expect pattern mode :: steps)) :
    channel.dueOutput? = some (pattern, mode) := by
  have hcurrent : channel.current? = some (.expect pattern mode) := h.current?_eq
  have hturn : channel.turn = .awaitingWrite := h.turn_eq
  simp only [dueOutput?, hturn, hcurrent]

theorem accept {pattern : Text} {mode : MatchMode} (chunk : Text)
    (h : channel.Faces script marks (.expect pattern mode :: steps)) :
    (channel.accept chunk).Faces script marks steps :=
  ⟨h.inStep.output h.current?_eq, h.failure, h.terminatorSent, h.drop_succ⟩

/-- An output that satisfies the pattern that is left is accepted. A lone line break satisfies a
pattern only if it is compared as it stands. -/
theorem write_value {pattern text : Text} {mode : MatchMode}
    (h : channel.Faces script marks (.expect pattern mode :: steps))
    (haccepts : mode.accepts pattern text = true) (hunified : text.unifyBreaks = text)
    (hchatter : marks.isChatter text = false) (hnewline : text = ['\n'] → mode = .exact) :
    channel.write text = (.ok (), channel.accept text) := by
  have hcurrent : channel.current? = some (.expect pattern mode) := h.current?_eq
  have hturn : channel.turn = .awaitingWrite := h.turn_eq
  rw [write, h.failure]
  simp only [hunified, h.inStep.marks, hchatter, Bool.false_eq_true,
    if_false]
  -- A lone line break is not compared with its pattern like a value, but must be the pattern.
  split_ifs with hlone
  · obtain rfl := hnewline hlone
    have hpattern : pattern = ['\n'] := by
      rw [← hlone]
      exact (beq_iff_eq.mp haccepts).symm
    rw [writeNewline, h.dueOutput?_eq, hpattern, if_pos rfl, hlone]
  · simp only [writeValue, hturn, hcurrent, haccepts, if_true]

/-- The line break behind an output is taken, unless it might be an output of its own. -/
theorem write_newline (h : channel.Faces script marks steps) (hmarks : marks.OneLine)
    (hallowed : channel.newlineAllowed = true) (hdue : channel.dueOutput? = none) :
    ∃ after, channel.write ['\n'] = (.ok (), after) ∧ after.Faces script marks steps := by
  have hchunk : Text.unifyBreaks ['\n'] = ['\n'] := rfl
  have hwrite : channel.write ['\n'] = channel.writeNewline := by
    rw [write, h.failure]
    simp only [hchunk, h.inStep.marks, Marks.isChatter_newline hmarks, Bool.false_eq_true,
      if_false, if_true]
  refine ⟨{ channel with transcript := channel.transcript ++ ['\n'], newlineAllowed := false }, ?_,
    ⟨h.inStep.steps, h.inStep.marks, h.inStep.inputsRead, h.inStep.outputsMatched, h.inStep.turn,
      h.inStep.terminatorSent⟩, h.failure, h.terminatorSent, h.left⟩
  rw [hwrite, writeNewline, hdue, if_neg (by simp), if_pos (.inl hallowed)]

end Faces

end Dialogue.Channel
