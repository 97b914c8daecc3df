import Dialogue.Proofs.Console.Writes
import Dialogue.Proofs.Run.Conforming

/-!
# What a program has been told

A channel hands out the inputs of its script in their order, and the terminator behind them
(`Channel.handedOut`). Only a read adds to that (`handedOut_write`, `handedOut_read`), and when the
script is done with, all of it has been handed out (`handedOut_of_drained`). At a console, whatever
is given out before a read leaves the channel where it stands in its script (`keptByWrites_stands`),
so the line that is read is the next one (`stands_readLine`).
-/

set_option autoImplicit false
set_option relaxedAutoImplicit false

namespace Dialogue

/-! ### At the channel -/

namespace Channel

/-- The lines that have been handed out. -/
def handedOut (channel : Channel) : List Text :=
  (channel.steps.take channel.consumed).filterMap Step.line? ++
    if channel.terminatorSent then [Dialogue.terminator] else []

/-- Writing hands out nothing. -/
theorem handedOut_write (channel : Channel) (text : Text) :
    (channel.write text).2.handedOut = channel.handedOut := by
  have htransition := transition_write channel text
  generalize (channel.write text).2 = after at htransition ⊢
  generalize Answer.ofResult (channel.write text).1 = answer at htransition
  cases htransition with
  | repeated | refused | chatter | newline => rfl
  | @output text pattern mode _ _ _ hcurrent =>
    have hconsumed : (channel.accept text.unifyBreaks).consumed = channel.consumed + 1 := rfl
    have hstep : channel.steps.take (channel.consumed + 1) =
        channel.steps.take channel.consumed ++ [.expect pattern mode] := by
      rw [List.take_add_one, ← current?, hcurrent]
      rfl
    rw [handedOut, hconsumed]
    change ((channel.steps.take (channel.consumed + 1)).filterMap Step.line? ++ _) = _
    rw [hstep, List.filterMap_append]
    exact congrArg (· ++ _) (List.append_nil _)

/-- A line that is read has been handed out behind the others. -/
theorem handedOut_read {script : Script} {marks : Marks} {channel after : Channel} {line : Text}
    (h : channel.InStep script marks) (hread : channel.read = (.ok line, after)) :
    after.handedOut = channel.handedOut ++ [line] := by
  have htransition := transition_read channel
  rw [hread] at htransition
  cases htransition with
  | input _ _ hcurrent =>
    have hstep : channel.steps.take (channel.consumed + 1) =
        channel.steps.take channel.consumed ++ [.input line] := by
      rw [List.take_add_one, ← current?, hcurrent]
      rfl
    have hconsumed : channel.inputsRead + 1 + channel.outputsMatched = channel.consumed + 1 :=
      Nat.add_right_comm _ _ _
    have hsent := h.terminatorSent_eq_false hcurrent
    change ((channel.steps.take (channel.inputsRead + 1 + channel.outputsMatched)).filterMap
      Step.line? ++ if channel.terminatorSent then _ else _) = _
    rw [hconsumed, hstep, List.filterMap_append, handedOut, hsent]
    simp [Step.line?]
  | terminator _ hturn hcurrent =>
    have hsent : channel.terminatorSent = false := by
      refine Bool.eq_false_iff.mpr fun hsent ↦ ?_
      rw [h.turn_eq_drained_iff.mpr hsent] at hturn
      contradiction
    rw [handedOut, handedOut, hsent]
    simp [consumed]

/-- When a script is done with, its inputs and the terminator have been handed out. -/
theorem handedOut_of_drained {script : Script} {marks : Marks} {channel : Channel}
    (h : channel.InStep script marks) (hturn : channel.turn = .drained) :
    channel.handedOut = script.inputs ++ [Dialogue.terminator] := by
  have hsent := h.turn_eq_drained_iff.mp hturn
  rw [handedOut, hsent, h.terminatorSent hsent, h.steps, List.take_length, if_pos rfl]
  rfl

end Channel

/-! ### At the console -/

/-- Where a channel stands in its script. -/
def Channel.Stands (script : Script) (marks : Marks) (lines : List Text) (terminatorSent : Bool)
    (channel : Channel) : Prop :=
  channel.InStep script marks ∧ channel.handedOut = lines ∧
    channel.terminatorSent = terminatorSent

namespace Console

open Channel

variable {script : Script} {marks : Marks} {lines : List Text} {terminatorSent : Bool}
  {console after : Console}

theorem keptByWrites_stands : KeptByWrites (Stands script marks lines terminatorSent) := by
  rintro channel text ⟨hinStep, hlines, hsent⟩
  have htransition := transition_write channel text
  refine ⟨hinStep.transition htransition, (handedOut_write channel text).trans hlines, ?_⟩
  rw [← hsent]
  generalize (channel.write text).2 = after at htransition ⊢
  generalize Answer.ofResult (channel.write text).1 = answer at htransition
  cases htransition <;> rfl

/-- A line that is read has been handed out behind the others, and it is the terminator if that has
then been handed out. -/
theorem stands_readLine {line : Text} (h : console.channel.Stands script marks lines false)
    (hread : console.readLine = (.ok line, after)) :
    after.channel.InStep script marks ∧ after.channel.handedOut = lines ++ [line] ∧
      (after.channel.terminatorSent = true → line = terminator) := by
  have hemitted := keeps_emitAll keptByWrites_stands h
  obtain ⟨channel, hemit, hanswer, -⟩ := exists_of_readLine hread
  rw [hemit] at hemitted
  obtain ⟨hinStep, hlines, hsent⟩ := hemitted
  have htransition := transition_read channel
  rw [hanswer] at htransition
  refine ⟨hinStep.transition htransition, by rw [handedOut_read hinStep hanswer, hlines],
    fun hafter ↦ ?_⟩
  generalize after.channel = last at htransition hafter
  cases htransition with
  | input => exact absurd (hsent.symm.trans hafter) (by simp)
  | terminator => rfl

theorem failure_readLine {line : Text} (h : console.channel.failure = none)
    (hread : console.readLine = (.ok line, after)) : after.channel.failure = none := by
  have hmakes := console.makes_readLine
  rw [hread] at hmakes
  exact hmakes.failure_eq_none h

theorem failure_printLine {text : Text} (h : console.channel.failure = none)
    (hprint : console.printLine text = (.ok (), after)) : after.channel.failure = none := by
  have hmakes := console.makes_offer (Text.Utf8.encode text ++ [newlineByte])
  rw [printLine] at hprint
  rw [hprint] at hmakes
  exact hmakes.failure_eq_none h

end Console

end Dialogue
