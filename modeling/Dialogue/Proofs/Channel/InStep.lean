import Dialogue.Proofs.Channel.Request

/-!
# A channel keeps step with its script

A channel counts inputs and outputs apart, and finds its place in the script by the sum of the two.
`Channel.InStep` is the invariant that makes this right: the counts are those of the inputs and of
the expected outputs among the first `consumed` steps, the turn is the one that belongs to the next
step, and the terminator has been handed out only behind the last one. It holds at the start
(`inStep_start`), each transition keeps it (`InStep.transition`), and so does every list of requests
(`InStep.serveAll`), whether they are answered or refused.
-/

set_option autoImplicit false
set_option relaxedAutoImplicit false

namespace Dialogue

namespace Step

/-- Every step of a list is an input or an expected output. -/
theorem countP_isInput_add_countP_isExpect (steps : List Step) :
    steps.countP isInput + steps.countP isExpect = steps.length := by
  have hnot : (fun step ↦ decide ¬ step.isInput = true) = isExpect := by
    funext step
    cases step <;> rfl
  rw [List.length_eq_countP_add_countP isInput, hnot]

end Step

namespace Channel

/-- The channel stands where its counts say in the script, and the turn is that of the next step. -/
structure InStep (script : Script) (marks : Marks) (channel : Channel) : Prop where
  steps : channel.steps = script.steps
  marks : channel.marks = marks
  inputsRead : channel.inputsRead = (script.steps.take channel.consumed).countP Step.isInput
  outputsMatched :
    channel.outputsMatched = (script.steps.take channel.consumed).countP Step.isExpect
  turn : channel.turn = turnAt channel.current? channel.terminatorSent
  terminatorSent : channel.terminatorSent = true → channel.consumed = script.steps.length

theorem inStep_start (script : Script) (marks : Marks) :
    (start script marks).InStep script marks where
  steps := rfl
  marks := rfl
  inputsRead := rfl
  outputsMatched := rfl
  turn := by simp [start, current?, consumed, List.head?_eq_getElem?]
  terminatorSent := by simp [start]

namespace InStep

variable {script : Script} {marks : Marks} {channel : Channel}

/-! ### Where the channel stands -/

theorem current?_eq (h : channel.InStep script marks) :
    channel.current? = script.steps[channel.consumed]? := by
  rw [current?, h.steps]

/-- No more steps are done than the script has. -/
theorem consumed_le (h : channel.InStep script marks) :
    channel.consumed ≤ script.steps.length := by
  have hsum := Step.countP_isInput_add_countP_isExpect (script.steps.take channel.consumed)
  rw [← h.inputsRead, ← h.outputsMatched, List.length_take] at hsum
  change channel.consumed = min channel.consumed script.steps.length at hsum
  omega

theorem inputTotal_eq (h : channel.InStep script marks) :
    channel.inputTotal = script.inputCount := by
  rw [inputTotal, h.steps, Script.inputCount]

theorem outputTotal_eq (h : channel.InStep script marks) :
    channel.outputTotal = script.outputCount := by
  rw [outputTotal, h.steps, Script.outputCount]

/-- The inputs that are left are those behind the steps that are done. -/
theorem inputsRead_add (h : channel.InStep script marks) :
    channel.inputsRead + (script.steps.drop channel.consumed).countP Step.isInput =
      script.inputCount := by
  rw [h.inputsRead, ← List.countP_append, List.take_append_drop, Script.inputCount]

/-- The outputs that are left are those behind the steps that are done. -/
theorem outputsMatched_add (h : channel.InStep script marks) :
    channel.outputsMatched + (script.steps.drop channel.consumed).countP Step.isExpect =
      script.outputCount := by
  rw [h.outputsMatched, ← List.countP_append, List.take_append_drop, Script.outputCount]

/-- A line is asked for and none is left exactly behind the last step. -/
theorem consumed_eq_of_awaitingRead (h : channel.InStep script marks)
    (hturn : channel.turn = .awaitingRead)
    (hcurrent : ∀ line, channel.current? ≠ some (.input line)) :
    channel.consumed = script.steps.length := by
  have hnone : channel.current? = none := by
    rcases hnext : channel.current? with _ | (line | ⟨pattern, mode⟩)
    · rfl
    · exact absurd hnext (hcurrent line)
    · rw [h.turn, hnext] at hturn
      simp [turnAt] at hturn
  rw [h.current?_eq, List.getElem?_eq_none_iff] at hnone
  exact Nat.le_antisymm h.consumed_le hnone

/-- The script is done with exactly when its terminator has been handed out. -/
theorem turn_eq_drained_iff (h : channel.InStep script marks) :
    channel.turn = .drained ↔ channel.terminatorSent = true := by
  rw [h.turn]
  constructor
  · intro hturn
    unfold turnAt at hturn
    split at hturn
    · contradiction
    · contradiction
    · simpa using hturn
  · intro hsent
    have hnone : channel.current? = none := by
      rw [h.current?_eq, h.terminatorSent hsent]
      exact List.getElem?_eq_none (Nat.le_refl _)
    simp [turnAt, hnone, hsent]

/-! ### What a request keeps -/

/-- A step that is done is one more of the steps that are counted. -/
theorem countP_take_succ {step : Step} (h : channel.InStep script marks)
    (hcurrent : channel.current? = some step) (test : Step → Bool) :
    (script.steps.take (channel.consumed + 1)).countP test =
      (script.steps.take channel.consumed).countP test + if test step then 1 else 0 := by
  rw [h.current?_eq] at hcurrent
  rw [List.take_add_one, hcurrent, List.countP_append]
  simp [List.countP_cons]

/-- The terminator has not been handed out while a step is left. -/
theorem terminatorSent_eq_false {step : Step} (h : channel.InStep script marks)
    (hcurrent : channel.current? = some step) : channel.terminatorSent = false := by
  refine Bool.eq_false_iff.mpr fun hsent ↦ ?_
  have hlength := h.terminatorSent hsent
  have hlt := consumed_lt_of_current? hcurrent
  rw [h.steps] at hlt
  omega

/-- An input that is read keeps the channel in step. -/
theorem input {line : Text} (h : channel.InStep script marks)
    (hcurrent : channel.current? = some (.input line)) :
    { channel with inputsRead := channel.inputsRead + 1 }.passTurn.InStep script marks := by
  have hconsumed : channel.inputsRead + 1 + channel.outputsMatched = channel.consumed + 1 := by
    rw [consumed]
    omega
  refine ⟨h.steps, h.marks, ?_, ?_, rfl, fun hsent ↦ ?_⟩
  · change channel.inputsRead + 1 = (script.steps.take
      (channel.inputsRead + 1 + channel.outputsMatched)).countP Step.isInput
    rw [hconsumed, h.countP_take_succ hcurrent, ← h.inputsRead]
    simp [Step.isInput]
  · change channel.outputsMatched = (script.steps.take
      (channel.inputsRead + 1 + channel.outputsMatched)).countP Step.isExpect
    rw [hconsumed, h.countP_take_succ hcurrent, ← h.outputsMatched]
    simp [Step.isExpect, Step.isInput]
  · exact absurd ((h.terminatorSent_eq_false hcurrent).symm.trans hsent) (by decide)

/-- An output that is accepted keeps the channel in step. -/
theorem output {pattern chunk : Text} {mode : MatchMode} (h : channel.InStep script marks)
    (hcurrent : channel.current? = some (.expect pattern mode)) :
    (channel.accept chunk).InStep script marks := by
  have hconsumed : (channel.accept chunk).consumed = channel.consumed + 1 := rfl
  refine ⟨h.steps, h.marks, ?_, ?_, rfl, fun hsent ↦ ?_⟩
  · rw [hconsumed, h.countP_take_succ hcurrent, ← h.inputsRead]
    simp [Step.isInput, accept, passTurn]
  · rw [hconsumed, h.countP_take_succ hcurrent, ← h.outputsMatched]
    simp [Step.isExpect, Step.isInput, accept, passTurn]
  · exact absurd ((h.terminatorSent_eq_false hcurrent).symm.trans hsent) (by decide)

/-- The terminator that is read keeps the channel in step. -/
theorem terminator (h : channel.InStep script marks) (hturn : channel.turn = .awaitingRead)
    (hcurrent : ∀ line, channel.current? ≠ some (.input line)) :
    { channel with terminatorSent := true }.passTurn.InStep script marks :=
  ⟨h.steps, h.marks, h.inputsRead, h.outputsMatched, rfl,
    fun _ ↦ h.consumed_eq_of_awaitingRead hturn hcurrent⟩

/-- Whatever a request does, the channel stays in step. -/
theorem transition {request : Request} {answer : Answer} {after : Channel}
    (h : channel.InStep script marks) (htransition : channel.Transition request answer after) :
    after.InStep script marks := by
  cases htransition with
  | repeated => exact h
  | refused => exact ⟨h.steps, h.marks, h.inputsRead, h.outputsMatched, h.turn, h.terminatorSent⟩
  | input _ _ hcurrent => exact h.input hcurrent
  | terminator _ hturn hcurrent => exact h.terminator hturn hcurrent
  | output _ _ _ hcurrent => exact h.output hcurrent
  | chatter => exact ⟨h.steps, h.marks, h.inputsRead, h.outputsMatched, h.turn, h.terminatorSent⟩
  | newline => exact ⟨h.steps, h.marks, h.inputsRead, h.outputsMatched, h.turn, h.terminatorSent⟩
  | note => exact ⟨h.steps, h.marks, h.inputsRead, h.outputsMatched, h.turn, h.terminatorSent⟩
  | finish => exact h

theorem serve (h : channel.InStep script marks) (request : Request) :
    (channel.serve request).2.InStep script marks :=
  h.transition (transition_serve channel request)

/-- Whatever is asked of a channel, it stays in step with its script. -/
theorem serveAll (h : channel.InStep script marks) (requests : List Request) :
    (channel.serveAll requests).InStep script marks := by
  induction requests generalizing channel with
  | nil => exact h
  | cons request rest ih => exact ih (h.serve request)

end InStep

end Channel

end Dialogue
