import Dialogue.Proofs.Channel.Order
import Dialogue.Proofs.Channel.Sticky
import Dialogue.Proofs.Script.Parse

/-!
# Where a run can stand

A channel in step with its script has counted no further than the script goes, so that no
subtraction of the counts from the totals is cut short (`InStep.pending_eq`), and its turn is the
one that its place in the script gives it (`InStep.position`). In particular the terminator has been
handed out exactly when the script is done with. A run that ends too early therefore always owes at
least the terminator (`owesTerminator_serveAll`), and of the wordings of what is left, the one for
nothing at all is never used (`Deviation.message_ne_runIncomplete`).

Of a script that has been read from a text more is known: its steps are cases, an input and the
output that is expected for it. Inputs and outputs then take turns, and the counts differ by one
exactly while an output is due (`Script.countP_take_flatMap_steps`). `position_of_serveAll` puts
this together for every channel that can be reached.
-/

set_option autoImplicit false
set_option relaxedAutoImplicit false

namespace Dialogue

/-! ### The steps of cases -/

namespace Script

/-- Among the first steps of some cases there are as many inputs as outputs, or one more if an
output comes next. -/
theorem countP_take_flatMap_steps (cases : List Case) (count : Nat) :
    ((cases.flatMap Case.steps).take count).countP Step.isInput =
      ((cases.flatMap Case.steps).take count).countP Step.isExpect +
        if (cases.flatMap Case.steps)[count]?.any Step.isExpect then 1 else 0 := by
  -- A case is done with in two steps.
  induction cases generalizing count with
  | nil => simp
  | cons case cases ih =>
    rw [List.flatMap_cons]
    match count with
    | 0 => rfl
    | 1 => rfl
    | count + 2 =>
      have hinputs : ((case.steps ++ cases.flatMap Case.steps).take (count + 2)).countP
          Step.isInput = ((cases.flatMap Case.steps).take count).countP Step.isInput + 1 := by
        simp [Case.steps, List.countP_cons, Step.isInput]
      have houtputs : ((case.steps ++ cases.flatMap Case.steps).take (count + 2)).countP
          Step.isExpect = ((cases.flatMap Case.steps).take count).countP Step.isExpect + 1 := by
        simp [Case.steps, Step.isExpect, Step.isInput]
      have hnext : (case.steps ++ cases.flatMap Case.steps)[count + 2]? =
          (cases.flatMap Case.steps)[count]? := rfl
      rw [hinputs, houtputs, hnext, ih count]
      omega

end Script

/-! ### What a deviation says -/

/-- What is left is expected, if it is the terminator at least. -/
theorem Pending.head?_message {pending : Pending} (h : pending.terminator = true) :
    'e' ∈ pending.message.head? := by
  have hexpected : 'e' ∈ "expected ".toList.head? := by decide +kernel
  unfold message
  dsimp only
  split
  · rw [if_pos h]
    decide +kernel
  · exact List.mem_head?_append_of_mem_head? hexpected
  · exact List.mem_head?_append_of_mem_head? hexpected
  · iterate 3 apply List.mem_head?_append_of_mem_head?
    exact hexpected

namespace Deviation

/-- If something is left of the script, it is the terminator at least. -/
def OwesTerminator (deviation : Deviation) : Prop :=
  ∀ pending, deviation = .incomplete pending → pending.terminator = true

theorem owesTerminator_incomplete {pending : Pending} (h : pending.terminator = true) :
    (incomplete pending).OwesTerminator := by
  intro other heq
  rwa [← incomplete.inj heq]

/-- The wording for a script of which nothing is left is that of no deviation that owes the
terminator. -/
theorem message_ne_runIncomplete {deviation : Deviation} (h : deviation.OwesTerminator) :
    deviation.message ≠ "run incomplete".toList := by
  -- The first letter tells the wordings apart.
  have hhead : ∃ c ∈ deviation.message.head?, c ≠ 'r' := by
    cases deviation with
    | violation violation =>
      refine ⟨'p', List.mem_head?_append_of_mem_head? ?_, by decide⟩
      decide +kernel
    | mismatch expected actual =>
      refine ⟨'e', ?_, by decide⟩
      iterate 3 apply List.mem_head?_append_of_mem_head?
      decide +kernel
    | incomplete pending => exact ⟨'e', Pending.head?_message (h pending rfl), by decide⟩
  obtain ⟨c, hc, hne⟩ := hhead
  intro heq
  rw [heq] at hc
  have hr : "run incomplete".toList.head? = some 'r' := by decide +kernel
  exact hne (Option.some.inj (hc.symm.trans hr))

end Deviation

namespace Channel

namespace InStep

variable {script : Script} {marks : Marks} {channel : Channel}

/-! ### The place in the script -/

/-- What is left of the script are the steps behind those that are done, and the terminator until it
has been handed out. -/
theorem pending_eq (h : channel.InStep script marks) :
    channel.pending =
      { inputs := (script.steps.drop channel.consumed).countP Step.isInput
        outputs := (script.steps.drop channel.consumed).countP Step.isExpect
        terminator := !channel.terminatorSent } := by
  have hinputs := h.inputsRead_add
  have houtputs := h.outputsMatched_add
  rw [pending, h.inputTotal_eq, h.outputTotal_eq, ← hinputs, ← houtputs, Nat.add_sub_cancel_left,
    Nat.add_sub_cancel_left]

/-- An output is due exactly if the next step expects one. -/
theorem turn_eq_awaitingWrite_iff (h : channel.InStep script marks) :
    channel.turn = .awaitingWrite ↔
      ∃ pattern mode, script.steps[channel.consumed]? = some (.expect pattern mode) := by
  rw [h.turn, h.current?_eq]
  rcases script.steps[channel.consumed]? with _ | (line | ⟨pattern, mode⟩)
  · cases channel.terminatorSent <;> simp [turnAt]
  · simp [turnAt]
  · simp [turnAt]

/-- The script is done with exactly if each of its steps is, and the terminator has been handed out.
-/
theorem turn_eq_drained_iff_done (h : channel.InStep script marks) :
    channel.turn = .drained ↔
      channel.consumed = script.steps.length ∧ channel.terminatorSent = true := by
  rw [h.turn_eq_drained_iff]
  exact ⟨fun hsent ↦ ⟨h.terminatorSent hsent, hsent⟩, And.right⟩

end InStep

/-- Where a channel stands in its script: how its counts, its turn and the terminator depend on the
number of the steps that are done. -/
structure Position (script : Script) (channel : Channel) : Prop where
  inputsRead : channel.inputsRead = (script.steps.take channel.consumed).countP Step.isInput
  outputsMatched :
    channel.outputsMatched = (script.steps.take channel.consumed).countP Step.isExpect
  consumed_le : channel.consumed ≤ script.steps.length
  inputsRead_le : channel.inputsRead ≤ channel.inputTotal
  outputsMatched_le : channel.outputsMatched ≤ channel.outputTotal
  awaitingWrite_iff : channel.turn = .awaitingWrite ↔
    ∃ pattern mode, script.steps[channel.consumed]? = some (.expect pattern mode)
  drained_iff : channel.turn = .drained ↔
    channel.consumed = script.steps.length ∧ channel.terminatorSent = true
  awaitingRead_iff : channel.turn = .awaitingRead ↔
    (¬ ∃ pattern mode, script.steps[channel.consumed]? = some (.expect pattern mode)) ∧
      ¬ (channel.consumed = script.steps.length ∧ channel.terminatorSent = true)
  terminatorSent_iff : channel.terminatorSent = true ↔ channel.turn = .drained

/-- A channel in step with its script stands where its counts say. -/
theorem InStep.position {script : Script} {marks : Marks} {channel : Channel}
    (h : channel.InStep script marks) : channel.Position script where
  inputsRead := h.inputsRead
  outputsMatched := h.outputsMatched
  consumed_le := h.consumed_le
  inputsRead_le := by
    rw [h.inputTotal_eq, ← h.inputsRead_add]
    exact Nat.le_add_right _ _
  outputsMatched_le := by
    rw [h.outputTotal_eq, ← h.outputsMatched_add]
    exact Nat.le_add_right _ _
  awaitingWrite_iff := h.turn_eq_awaitingWrite_iff
  drained_iff := h.turn_eq_drained_iff_done
  awaitingRead_iff := by
    rw [← h.turn_eq_awaitingWrite_iff, ← h.turn_eq_drained_iff_done]
    cases channel.turn <;> decide
  terminatorSent_iff := h.turn_eq_drained_iff.symm

/-- Inputs and outputs take turns, and the one count is ahead of the other exactly while an output
is due. -/
structure Alternates (channel : Channel) : Prop where
  outputsMatched_le : channel.outputsMatched ≤ channel.inputsRead
  inputsRead_le : channel.inputsRead ≤ channel.outputsMatched + 1
  awaitingWrite_iff :
    channel.turn = .awaitingWrite ↔ channel.inputsRead ≠ channel.outputsMatched

/-- A channel in step with a script of cases takes turns. -/
theorem InStep.alternates {script : Script} {marks : Marks} {channel : Channel}
    {cases : List Script.Case} (h : channel.InStep script marks)
    (hcases : script.steps = cases.flatMap Script.Case.steps) : channel.Alternates := by
  have hcount := Script.countP_take_flatMap_steps cases channel.consumed
  rw [← hcases, ← h.inputsRead, ← h.outputsMatched] at hcount
  have hdue : channel.turn = .awaitingWrite ↔
      script.steps[channel.consumed]?.any Step.isExpect = true := by
    rw [h.turn_eq_awaitingWrite_iff]
    rcases script.steps[channel.consumed]? with _ | (line | ⟨pattern, mode⟩) <;>
      simp [Step.isExpect, Step.isInput]
  by_cases hnext : script.steps[channel.consumed]?.any Step.isExpect = true
  · rw [if_pos hnext] at hcount
    exact ⟨by omega, by omega, iff_of_true (hdue.mpr hnext) (by omega)⟩
  · rw [if_neg hnext] at hcount
    exact ⟨by omega, by omega, iff_of_false (hdue.not.mpr hnext) (by omega)⟩

/-! ### What is refused on the way -/

/-- A request for which a channel in step is found to deviate owes the terminator. -/
theorem InStep.owesTerminator {script : Script} {marks : Marks} {channel : Channel}
    {request : Request} {deviation : Deviation} (h : channel.InStep script marks)
    (hcause : channel.Deviates request deviation) : deviation.OwesTerminator := by
  cases hcause with
  | unfinished hturn =>
    apply Deviation.owesTerminator_incomplete
    rw [h.pending_eq, Bool.not_eq_true', Bool.eq_false_iff]
    exact h.turn_eq_drained_iff.not.mp hturn
  | readBeforeOutput | readAfterTerminator | strayNewline | mismatch | wroteBeforeInput
  | wroteAfterEnd => exact fun pending heq ↦ nomatch heq

/-- A deviation that is recorded owes the terminator. -/
def RecordOwesTerminator (channel : Channel) : Prop :=
  ∀ deviation, channel.failure = some deviation → deviation.OwesTerminator

/-- One request keeps it so. -/
theorem RecordOwesTerminator.transition {script : Script} {marks : Marks}
    {channel after : Channel} {request : Request} {answer : Answer}
    (h : channel.RecordOwesTerminator) (hstep : channel.InStep script marks)
    (htransition : channel.Transition request answer after) : after.RecordOwesTerminator := by
  cases htransition with
  | refused _ hcause =>
    intro deviation hfailure
    obtain rfl := Option.some.inj hfailure
    exact hstep.owesTerminator hcause
  | repeated | input | terminator | output | chatter | newline | note | finish => exact h

/-- Any requests keep it so. -/
theorem RecordOwesTerminator.serveAll {script : Script} {marks : Marks} {channel : Channel}
    (h : channel.RecordOwesTerminator) (hstep : channel.InStep script marks)
    (requests : List Request) : (channel.serveAll requests).RecordOwesTerminator := by
  induction requests generalizing channel with
  | nil => exact h
  | cons request rest ih =>
    exact ih (h.transition hstep (transition_serve channel request)) (hstep.serve request)

/-- Whatever a request on a fresh channel is refused for owes the terminator. -/
theorem owesTerminator_serveAll {script : Script} {marks : Marks} {requests : List Request}
    {exchange : Exchange} (hmem : exchange ∈ (start script marks).exchanges requests)
    {deviation : Deviation} (hrefused : exchange.answer = .refused deviation) :
    deviation.OwesTerminator := by
  obtain ⟨earlier, later, hsplit⟩ := List.append_of_mem hmem
  obtain ⟨first, request, -, -, -, rfl, -⟩ := exchanges_eq_append_cons hsplit
  have hstart : (start script marks).RecordOwesTerminator := fun _ hnone ↦ nomatch hnone
  have hstep : ((start script marks).serveAll first).InStep script marks :=
    (inStep_start script marks).serveAll first
  have htransition := transition_serve ((start script marks).serveAll first) request
  have hafter := (hstart.serveAll (inStep_start script marks) first).transition hstep htransition
  change (((start script marks).serveAll first).serve request).1 = _ at hrefused
  rw [hrefused] at htransition
  exact hafter deviation (by rw [htransition.after_of_refused])

/-! ### Every state of a run -/

/-- On a script of any kind and whatever is asked of its channel, refused or not: the counts are
those of the inputs and the expected outputs among the steps that are done, of which there are no
more than the script has; an output is due exactly before a step that expects one, and the script is
done with exactly if all steps are and the terminator has been handed out, which it has at no other
time. Whatever is refused because the run is incomplete owes the terminator, and is never worded as
a run of which nothing is left. On a script that has been read from a text inputs and outputs take
turns.
-/
theorem position_of_serveAll (script : Script) (marks : Marks) (requests : List Request) :
    let channel := (start script marks).serveAll requests
    channel.Position script ∧
      (∀ exchange ∈ (start script marks).exchanges requests, ∀ deviation,
        exchange.answer = .refused deviation →
          (∀ pending, deviation = .incomplete pending → pending.terminator = true) ∧
            deviation.message ≠ "run incomplete".toList) ∧
      ∀ text, Script.parse text = .ok script → channel.Alternates := by
  intro channel
  have hstep : channel.InStep script marks := (inStep_start script marks).serveAll requests
  refine ⟨hstep.position, fun exchange hmem deviation hrefused ↦ ?_, fun text hparse ↦ ?_⟩
  · have howes := owesTerminator_serveAll hmem hrefused
    exact ⟨howes, Deviation.message_ne_runIncomplete howes⟩
  · obtain ⟨cases, -, hcases⟩ := Script.parse_eq_ok_iff.mp hparse
    exact hstep.alternates hcases

/-- A program that ends after its first line: the script of two cases is left at the output of the
first one. -/
theorem position_of_serveAll_early_end :
    let script : Script :=
      ⟨none, [.input "add 2 3".toList, .expect "5".toList .exact, .input "add 3 4".toList,
        .expect "7".toList .exact], List.cons_ne_nil _ _⟩
    let channel := (start script Marks.standard).serveAll [.read, .finish]
    Script.parse "5 : \"add 2 3\"\n7 : \"add 3 4\"\n".toList = .ok script ∧
      channel.Position script ∧ channel.Alternates ∧
      channel.failure = some (.incomplete ⟨1, 2, true⟩) ∧
      (channel.inputsRead, channel.outputsMatched, channel.turn) = (1, 0, .awaitingWrite) := by
  intro script channel
  have hparse : Script.parse "5 : \"add 2 3\"\n7 : \"add 3 4\"\n".toList = .ok script := by
    decide +kernel
  obtain ⟨hposition, -, halternates⟩ :=
    position_of_serveAll script Marks.standard [.read, .finish]
  exact ⟨hparse, hposition, halternates _ hparse, by decide +kernel, by decide +kernel⟩

end Channel

end Dialogue
