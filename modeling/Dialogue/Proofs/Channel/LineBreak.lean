import Dialogue.Proofs.Console.Refused
import Dialogue.Script.Parser
import Mathlib.Data.List.Induction

/-!
# Lone line breaks

A line break by itself is meant to end what was written just before it. A channel therefore notes
after every output whether a line break may follow (`Transition.newlineAllowed_write`). Only an
output changes that note (`Transition.newlineAllowed_eq`), so in a whole run it tells whether the
last output that was written was taken for an expected one or for chatter
(`newlineAllowed_serveAll`), however long ago that was.

`lineBreak_ends_output` says exactly when a lone line break is let through without being an output
itself. While an output is due, some output must have been taken and no other may have been written
since; but lines may have been read, so that a line break behind a read can still end what was
written before it (`lineBreak_granted_behind_read`).
-/

set_option autoImplicit false
set_option relaxedAutoImplicit false

namespace Dialogue.Channel

/-! ### The last output -/

/-- Whether a request is to write an output. -/
def Request.isWrite : Request → Bool
  | write _ => true
  | read | note _ | finish => false

/-- Whether a line break may end what was written in an exchange: an output that was counted as a
match, or chatter. -/
def Exchange.invitesBreak (exchange : Exchange) : Bool :=
  match exchange.request, exchange.answer with
  | .write text, .done =>
    decide (exchange.before.outputsMatched < exchange.after.outputsMatched) ||
      exchange.before.marks.isChatter text.unifyBreaks
  | _, _ => false

/-- The last exchange in which an output was written, granted or not. -/
def lastWrite? (exchanges : List Exchange) : Option Exchange :=
  (exchanges.filter (·.request.isWrite)).getLast?

theorem lastWrite?_concat (exchanges : List Exchange) (exchange : Exchange) :
    lastWrite? (exchanges ++ [exchange]) =
      if exchange.request.isWrite then some exchange else lastWrite? exchanges := by
  rw [lastWrite?, List.filter_append]
  split_ifs with hwrite
  · rw [List.filter_singleton, hwrite, cond_true, List.getLast?_concat]
  · rw [List.filter_singleton, Bool.eq_false_iff.mpr hwrite, cond_false, List.append_nil,
      lastWrite?]

/-- The exchange just before is the last output, if one was written in it. -/
theorem mem_lastWrite?_of_mem_getLast? {exchanges : List Exchange} {last : Exchange}
    (hlast : last ∈ exchanges.getLast?) (hwrite : last.request.isWrite = true) :
    last ∈ lastWrite? exchanges := by
  obtain ⟨before, rfl⟩ := List.getLast?_eq_some_iff.mp hlast
  rw [lastWrite?_concat, if_pos hwrite]
  rfl

/-! ### What the channel notes -/

section Transition

variable {channel after : Channel} {answer : Answer}

/-- An output settles whether a line break may follow. -/
theorem Transition.newlineAllowed_write {text : Text}
    (h : channel.Transition (.write text) answer after) (hfailure : after.failure = none) :
    after.newlineAllowed = Exchange.invitesBreak ⟨channel, .write text, answer, after⟩ := by
  cases h with
  | repeated hrecorded =>
    rw [hrecorded] at hfailure
    contradiction
  | refused => contradiction
  | output =>
    exact (Bool.or_eq_true_iff.mpr (.inl (decide_eq_true (Nat.lt_succ_self _)))).symm
  | chatter _ hchatter => exact (Bool.or_eq_true_iff.mpr (.inr hchatter)).symm
  | newline _ hchatter => simp [Exchange.invitesBreak, hchatter]

/-- Nothing else changes it, and a read in particular does not. -/
theorem Transition.newlineAllowed_eq {request : Request}
    (h : channel.Transition request answer after) (hwrite : request.isWrite = false) :
    after.newlineAllowed = channel.newlineAllowed := by
  cases h with
  | repeated | refused | input | terminator | note | finish => rfl
  | output | chatter | newline => contradiction

end Transition

/-- As long as nothing has been refused, a line break may follow exactly if the last output invites
one. -/
theorem newlineAllowed_serveAll (script : Script) (marks : Marks) {requests : List Request}
    (hfailure : ((start script marks).serveAll requests).failure = none) :
    ((start script marks).serveAll requests).newlineAllowed =
      (lastWrite? ((start script marks).exchanges requests)).any Exchange.invitesBreak := by
  induction requests using List.reverseRecOn with
  | nil => rfl
  | append_singleton requests request ih =>
    have htransition := transition_serve ((start script marks).serveAll requests) request
    rw [serveAll_append] at hfailure ⊢
    rw [exchanges_append]
    change (_ : Channel).newlineAllowed = (lastWrite? (_ ++ [exchange _ request])).any _
    rw [lastWrite?_concat]
    change _ = (if request.isWrite = true then _ else _ : Option Exchange).any _
    cases hwrite : request.isWrite with
    | true =>
      obtain ⟨text, rfl⟩ : ∃ text, request = .write text := by
        cases request with
        | write text => exact ⟨text, rfl⟩
        | read | note | finish => contradiction
      exact htransition.newlineAllowed_write hfailure
    | false =>
      have hbefore : ((start script marks).serveAll requests).failure = none := by
        rw [Option.eq_none_iff_forall_ne_some]
        intro deviation hrecorded
        have hafter := htransition.failure_of_failure hrecorded
        exact absurd (hfailure.symm.trans hafter) (by simp)
      exact (htransition.newlineAllowed_eq hwrite).trans (ih hbefore)

/-! ### Lone line breaks -/

/-- A lone line break that is no chatter. -/
theorem write_eq_writeNewline {channel : Channel} {text : Text} (hfailure : channel.failure = none)
    (htext : text.unifyBreaks = ['\n']) (hchatter : channel.marks.isChatter ['\n'] = false) :
    channel.write text = channel.writeNewline := by
  simp only [write, hfailure, htext, hchatter, Bool.false_eq_true, if_false, if_true]

/-- A lone line break is let through without being an output itself exactly if nothing is recorded
and it is chatter, or no lone line break is due and one may follow or every output has been given.
-/
theorem write_lineBreak_iff {channel : Channel} {text : Text} (htext : text.unifyBreaks = ['\n']) :
    (channel.serve (.write text)).1 = .done ∧
        (channel.serve (.write text)).2.outputsMatched = channel.outputsMatched ↔
      channel.failure = none ∧ (channel.marks.isChatter ['\n'] = true ∨
        channel.dueOutput? ≠ some (['\n'], .exact) ∧
          (channel.outputsMatched = channel.outputTotal ∨ channel.newlineAllowed = true)) := by
  change Answer.ofResult (channel.write text).1 = .done ∧
    (channel.write text).2.outputsMatched = channel.outputsMatched ↔ _
  rcases hfailure : channel.failure with _ | deviation
  swap
  · simp [write, hfailure, Answer.ofResult]
  cases hchatter : channel.marks.isChatter ['\n'] with
  | true => simp [write, hfailure, htext, hchatter, Answer.ofResult]
  | false =>
    rw [write_eq_writeNewline hfailure htext hchatter, writeNewline]
    split_ifs with hdue hallowed
    · have hcounted : (channel.accept ['\n']).outputsMatched = channel.outputsMatched + 1 := rfl
      simp [hdue, hcounted]
    · simp [hdue, or_comm.mp hallowed, Answer.ofResult]
    · simp [or_comm.not.mp hallowed, fail, Answer.ofResult]

/-- When every output has been given, none is due. -/
theorem InStep.turn_ne_awaitingWrite {script : Script} {marks : Marks} {channel : Channel}
    (h : channel.InStep script marks) (hmatched : channel.outputsMatched = channel.outputTotal) :
    channel.turn ≠ .awaitingWrite := by
  intro hturn
  rw [h.turn, h.current?_eq] at hturn
  rcases hnext : script.steps[channel.consumed]? with _ | (line | ⟨pattern, mode⟩)
  · rw [hnext] at hturn
    cases hsent : channel.terminatorSent <;> simp [turnAt, hsent] at hturn
  · rw [hnext] at hturn
    contradiction
  · -- An expected output stands behind the steps that are done.
    have hleft := h.outputsMatched_add
    have hmem : .expect pattern mode ∈ script.steps.drop channel.consumed :=
      List.mem_of_getElem? (i := 0) (by rwa [List.getElem?_drop])
    have hpos : 0 < (script.steps.drop channel.consumed).countP Step.isExpect :=
      List.countP_pos_iff.mpr ⟨_, hmem, rfl⟩
    rw [hmatched, h.outputTotal_eq] at hleft
    omega

/-- A lone line break ends an output. Whatever was asked of the channel of a script before: one is
let through without being counted as an output itself exactly if nothing was refused before, no lone
line break is due, and either all expected outputs have been given, in which case none is due, or
the last output that was written was counted as a match or was chatter. (It is also let through if
it is chatter itself.) What was written last is what was asked for just before, unless that was no
output: behind an output lines may be read before the line break ends it. -/
theorem lineBreak_ends_output (script : Script) (marks : Marks) (earlier : List Request)
    {text : Text} (htext : text.unifyBreaks = ['\n']) :
    let exchanges := (start script marks).exchanges earlier
    let channel := (start script marks).serveAll earlier
    ((channel.serve (.write text)).1 = .done ∧
        (channel.serve (.write text)).2.outputsMatched = channel.outputsMatched ↔
      channel.failure = none ∧ (marks.isChatter ['\n'] = true ∨
        channel.dueOutput? ≠ some (['\n'], .exact) ∧
          (channel.outputsMatched = channel.outputTotal ∨
            ∃ output ∈ lastWrite? exchanges, output.invitesBreak = true))) ∧
      (channel.outputsMatched = channel.outputTotal → channel.turn ≠ .awaitingWrite) ∧
      ∀ last ∈ exchanges.getLast?, last.request.isWrite = true → last ∈ lastWrite? exchanges := by
  intro exchanges channel
  have hstep : channel.InStep script marks := (inStep_start script marks).serveAll earlier
  refine ⟨?_, hstep.turn_ne_awaitingWrite, fun last ↦ mem_lastWrite?_of_mem_getLast?⟩
  rw [write_lineBreak_iff htext, hstep.marks]
  refine and_congr_right fun hfailure ↦ ?_
  have hallowed : channel.newlineAllowed = (lastWrite? exchanges).any Exchange.invitesBreak :=
    newlineAllowed_serveAll script marks hfailure
  rw [hallowed, Option.any_eq_true]
  rfl

/-- A remark is made while an output is due, and a line break written as two characters ends it. -/
theorem lineBreak_ends_output_remark :
    let script : Script :=
      ⟨none, [.input "add 2 3".toList, .expect "5".toList .exact], List.cons_ne_nil _ _⟩
    let earlier : List Request := [.read, .write "Test: wait".toList]
    let channel := (start script Marks.standard).serveAll earlier
    Text.unifyBreaks ['\r', '\n'] = ['\n'] ∧ channel.turn = .awaitingWrite ∧
      (channel.serve (.write ['\r', '\n'])).1 = .done ∧
      (channel.serve (.write ['\r', '\n'])).2.outputsMatched = channel.outputsMatched := by
  intro script earlier channel
  have hbreak : Text.unifyBreaks ['\r', '\n'] = ['\n'] := rfl
  obtain ⟨hiff, -, -⟩ := lineBreak_ends_output script Marks.standard earlier hbreak
  obtain ⟨hdone, hmatched⟩ := hiff.mpr ⟨rfl, .inr ⟨by decide +kernel, .inr ⟨_, rfl, by
    decide +kernel⟩⟩⟩
  exact ⟨hbreak, by decide +kernel, hdone, hmatched⟩

/-- A line break that comes when the next output is due ends the output before it although the next
input has been read in between. -/
theorem lineBreak_granted_behind_read :
    let script : Script :=
      ⟨none, [.input "x".toList, .expect "a".toList .exact, .input "y".toList,
        .expect "b".toList .exact], List.cons_ne_nil _ _⟩
    let earlier : List Request := [.read, .write "a".toList, .read]
    let channel := (start script Marks.standard).serveAll earlier
    Script.parse "\"a\" : \"x\"\n\"b\" : \"y\"\n".toList = .ok script ∧
      channel.turn = .awaitingWrite ∧ channel.dueOutput? = some ("b".toList, .exact) ∧
      ((start script Marks.standard).exchanges earlier).getLast?.map Exchange.request =
        some .read ∧
      (channel.serve (.write ['\n'])).1 = .done ∧
      (channel.serve (.write ['\n'])).2.outputsMatched = channel.outputsMatched := by
  decide +kernel

end Dialogue.Channel
