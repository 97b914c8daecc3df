import Dialogue.Proofs.Channel.InStep
import Mathlib.Data.List.Forall2

/-!
# The order of a dialogue

What happens on a channel is a dialogue: a line of the script is read, or an output satisfies a
pattern. `events` is the dialogue in a list of exchanges, and `Event.Performs` says when an event is
what a step of the script asks for, which for outputs is what the channel tests
(`Event.performs_expect_iff`). Chatter, line breaks, notes and refusals are no events, and neither
is the terminator (`Exchange.isTerminator`).

`Recorded` is the invariant of a run: the events perform the steps that are done, one by one; the
terminator has been read as often as the channel says; and the recorded deviation is the first
refusal. `Recorded.transition` adds one exchange and `recorded_serveAll` follows a run. The main
statement is `exchanges_in_order`: the dialogue is a beginning of the script, the terminator comes
once and last, and a run can be finished exactly if nothing was refused and nothing is left.
-/

set_option autoImplicit false
set_option relaxedAutoImplicit false

namespace Dialogue.Channel

/-! ### Events -/

/-- Something that takes place in a dialogue. -/
inductive Event where
  /-- A line of the script is read. -/
  | heard (line : Text)
  /-- An output satisfies the pattern that is due. -/
  | said (text : Text)
  deriving Repr, DecidableEq

namespace Event

/-- Whether an event is what a step asks for. The line that is read is the one of the step. An
output, with its line breaks unified, is the pattern, or the pattern but for the case of letters, or
begins with the word for an error. -/
def Performs : Event → Step → Prop
  | heard line, .input text => line = text
  | said text, .expect pattern .exact => text.unifyBreaks = pattern
  | said text, .expect pattern .caseInsensitive =>
    text.unifyBreaks.lowerCase = pattern.lowerCase
  | said text, .expect _ .errorSentinel => "Error".toList <+: text.unifyBreaks
  | _, _ => False

/-- An output performs a step whose pattern accepts it, and no other one. -/
theorem performs_expect_iff {text pattern : Text} {mode : MatchMode} :
    (said text).Performs (.expect pattern mode) ↔
      mode.accepts pattern text.unifyBreaks = true := by
  cases mode with
  | exact => exact beq_iff_eq.symm
  | caseInsensitive => exact beq_iff_eq.symm
  | errorSentinel => exact List.isPrefixOf_iff_prefix.symm

end Event

namespace Exchange

/-- The event in an exchange: a line is read and counted as an input, or an output is written and
counted as a match. -/
def event? (exchange : Exchange) : Option Event :=
  match exchange.request, exchange.answer with
  | .read, .line line =>
    if exchange.before.inputsRead < exchange.after.inputsRead then some (.heard line) else none
  | .write text, .done =>
    if exchange.before.outputsMatched < exchange.after.outputsMatched then some (.said text)
    else none
  | _, _ => none

/-- Whether a line is read that is not one of the script. -/
def isTerminator (exchange : Exchange) : Bool :=
  match exchange.request, exchange.answer with
  | .read, .line _ => exchange.event?.isNone
  | _, _ => false

theorem event?_of_refused {exchange : Exchange} {deviation : Deviation}
    (h : exchange.answer = .refused deviation) : exchange.event? = none := by
  rw [event?, h]
  cases exchange.request <;> rfl

theorem event?_of_inputsRead_lt (before after : Channel) (line : Text)
    (h : before.inputsRead < after.inputsRead) :
    event? ⟨before, .read, .line line, after⟩ = some (.heard line) :=
  if_pos h

theorem event?_of_inputsRead_eq (before after : Channel) (line : Text)
    (h : after.inputsRead = before.inputsRead) :
    event? ⟨before, .read, .line line, after⟩ = none :=
  if_neg (by simp [h])

theorem event?_of_outputsMatched_lt (before after : Channel) (text : Text)
    (h : before.outputsMatched < after.outputsMatched) :
    event? ⟨before, .write text, .done, after⟩ = some (.said text) :=
  if_pos h

theorem event?_of_outputsMatched_eq (before after : Channel) (text : Text)
    (h : after.outputsMatched = before.outputsMatched) :
    event? ⟨before, .write text, .done, after⟩ = none :=
  if_neg (by simp [h])

theorem isTerminator_of_line {exchange : Exchange} {line : Text}
    (hrequest : exchange.request = .read) (hanswer : exchange.answer = .line line) :
    exchange.isTerminator = exchange.event?.isNone := by
  rw [isTerminator, hrequest, hanswer]

theorem isTerminator_of_done {exchange : Exchange} (hanswer : exchange.answer = .done) :
    exchange.isTerminator = false := by
  rw [isTerminator, hanswer]
  cases exchange.request <;> rfl

theorem isTerminator_of_refused {exchange : Exchange} {deviation : Deviation}
    (h : exchange.answer = .refused deviation) : exchange.isTerminator = false := by
  rw [isTerminator, h]
  cases exchange.request <;> rfl

/-- Only a write makes an output take place. -/
theorem request_of_said {exchange : Exchange} {text : Text}
    (h : exchange.event? = some (.said text)) : exchange.request = .write text := by
  unfold event? at h
  split at h
  · split_ifs at h
    exact absurd (Option.some.inj h) (by simp)
  · next written _ hrequest _ =>
    split_ifs at h
    obtain rfl := Event.said.inj (Option.some.inj h)
    exact hrequest
  · contradiction

end Exchange

/-- The dialogue in some exchanges. -/
def events (exchanges : List Exchange) : List Event :=
  exchanges.filterMap Exchange.event?

/-- An output that takes place has been written. -/
theorem write_mem_of_said {channel : Channel} {requests : List Request} {text : Text}
    (h : .said text ∈ events (channel.exchanges requests)) : .write text ∈ requests := by
  obtain ⟨exchange, hmem, hevent⟩ := List.mem_filterMap.mp h
  obtain ⟨earlier, later, hsplit⟩ := List.append_of_mem hmem
  obtain ⟨first, request, second, hrequests, -, hexchange, -⟩ := exchanges_eq_append_cons hsplit
  rw [hrequests]
  have hrequest : request = .write text := by
    rw [hexchange] at hevent
    exact Exchange.request_of_said hevent
  rw [hrequest]
  exact List.mem_append_right first List.mem_cons_self

/-- The first refusal among some exchanges. -/
def firstRefusal? (exchanges : List Exchange) : Option Deviation :=
  exchanges.findSome? fun exchange ↦ exchange.answer.refusal?

/-- One more exchange is the first refusal if there was none before it. -/
theorem firstRefusal?_append (exchanges : List Exchange) (exchange : Exchange) :
    firstRefusal? (exchanges ++ [exchange]) =
      (firstRefusal? exchanges).or exchange.answer.refusal? := by
  rw [firstRefusal?, List.findSome?_append, List.findSome?_singleton, firstRefusal?]

/-- Nothing was refused if there is no first refusal. -/
theorem firstRefusal?_eq_none_iff {exchanges : List Exchange} :
    firstRefusal? exchanges = none ↔ ∀ exchange ∈ exchanges, exchange.answer.refusal? = none :=
  List.findSome?_eq_none_iff

/-! ### The record of a run -/

/-- The exchanges are a record of a run of the script up to where the channel stands. -/
structure Recorded (script : Script) (marks : Marks) (exchanges : List Exchange)
    (channel : Channel) : Prop where
  inStep : channel.InStep script marks
  events : List.Forall₂ Event.Performs (events exchanges) (script.steps.take channel.consumed)
  terminator :
    exchanges.countP Exchange.isTerminator = if channel.terminatorSent then 1 else 0
  failure : channel.failure = firstRefusal? exchanges

namespace Recorded

variable {script : Script} {marks : Marks} {exchanges : List Exchange} {channel : Channel}

/-- There are as many events as steps that are done. -/
theorem length_events (h : Recorded script marks exchanges channel) :
    (Channel.events exchanges).length = channel.consumed := by
  rw [h.events.length_eq, List.length_take, Nat.min_eq_left h.inStep.consumed_le]

/-- Once no step is left, each of them has been performed. -/
theorem exists_performs (h : Recorded script marks exchanges channel)
    (hleft : script.steps.drop (Channel.events exchanges).length = []) {step : Step}
    (hstep : step ∈ script.steps) : ∃ event ∈ Channel.events exchanges, event.Performs step := by
  have hall : script.steps.take channel.consumed = script.steps := by
    apply List.take_of_length_le
    rw [← h.length_events]
    exact List.drop_eq_nil_iff.mp hleft
  obtain ⟨earlier, later, hsplit⟩ := List.append_of_mem hstep
  have hevents := h.events
  rw [hall, hsplit] at hevents
  obtain ⟨event, others, hperforms, -, hdrop⟩ :=
    List.forall₂_cons_right_iff.mp (List.forall₂_drop_append _ earlier _ hevents)
  exact ⟨event, List.mem_of_mem_drop (hdrop ▸ List.mem_cons_self), hperforms⟩

/-- The terminator has been read if the channel says so. -/
theorem terminatorSent_iff (h : Recorded script marks exchanges channel) :
    channel.terminatorSent = true ↔ ∃ exchange ∈ exchanges, exchange.isTerminator = true := by
  rw [← List.countP_pos_iff, h.terminator]
  split <;> simp [*]

/-- An exchange without an event adds none, and the steps that are done are the same. -/
theorem events_append {exchange : Exchange} {after : Channel}
    (h : Recorded script marks exchanges channel) (hevent : exchange.event? = none)
    (hconsumed : after.consumed = channel.consumed) :
    List.Forall₂ Event.Performs (Channel.events (exchanges ++ [exchange]))
      (script.steps.take after.consumed) := by
  rw [Channel.events, List.filterMap_append, hconsumed]
  simpa [hevent] using show List.Forall₂ _ (exchanges.filterMap _) _ from h.events

/-- An exchange with an event adds it, and the step that was due is done. -/
theorem events_append_cons {exchange : Exchange} {after : Channel} {event : Event} {step : Step}
    (h : Recorded script marks exchanges channel) (hevent : exchange.event? = some event)
    (hcurrent : channel.current? = some step) (hperforms : event.Performs step)
    (hconsumed : after.consumed = channel.consumed + 1) :
    List.Forall₂ Event.Performs (Channel.events (exchanges ++ [exchange]))
      (script.steps.take after.consumed) := by
  rw [h.inStep.current?_eq] at hcurrent
  rw [Channel.events, List.filterMap_append, hconsumed, List.take_add_one, hcurrent]
  refine List.rel_append h.events ?_
  simpa [hevent] using hperforms

/-- An exchange that is neither a refusal nor the terminator changes neither record. -/
theorem append {exchange : Exchange} {after : Channel}
    (h : Recorded script marks exchanges channel) (hstep : after.InStep script marks)
    (hevents : List.Forall₂ Event.Performs (Channel.events (exchanges ++ [exchange]))
      (script.steps.take after.consumed))
    (hterminator : exchange.isTerminator = false)
    (hsent : after.terminatorSent = channel.terminatorSent)
    (hrefusal : exchange.answer.refusal? = none) (hfailure : after.failure = channel.failure) :
    Recorded script marks (exchanges ++ [exchange]) after where
  inStep := hstep
  events := hevents
  terminator := by
    rw [List.countP_append, h.terminator, hsent]
    simp [hterminator]
  failure := by
    rw [firstRefusal?_append, hrefusal, Option.or_none, hfailure, h.failure]

/-- One more exchange keeps the record. -/
theorem transition {request : Request} {answer : Answer} {after : Channel}
    (h : Recorded script marks exchanges channel)
    (htransition : channel.Transition request answer after) :
    Recorded script marks (exchanges ++ [⟨channel, request, answer, after⟩]) after := by
  have hstep := h.inStep.transition htransition
  cases htransition with
  | repeated hfailure =>
    refine ⟨hstep, h.events_append (Exchange.event?_of_refused rfl) rfl, ?_, ?_⟩
    · rw [List.countP_append, h.terminator]
      simp [Exchange.isTerminator_of_refused]
    · rw [firstRefusal?_append, ← h.failure, hfailure]
      rfl
  | refused hfailure hcause =>
    refine ⟨hstep, h.events_append (Exchange.event?_of_refused rfl) rfl, ?_, ?_⟩
    · rw [List.countP_append, h.terminator]
      simp [Exchange.isTerminator_of_refused]
    · rw [firstRefusal?_append, ← h.failure, hfailure]
      rfl
  | @input line hfailure hturn hcurrent =>
    have hevent := Exchange.event?_of_inputsRead_lt channel
      { channel with inputsRead := channel.inputsRead + 1 }.passTurn line
      (Nat.lt_succ_self channel.inputsRead)
    refine h.append hstep (h.events_append_cons hevent hcurrent rfl ?_) ?_ rfl rfl rfl
    · change channel.inputsRead + 1 + channel.outputsMatched = channel.consumed + 1
      rw [consumed]
      omega
    · rw [Exchange.isTerminator_of_line rfl rfl, hevent, Option.isNone_some]
  | terminator hfailure hturn hcurrent =>
    have hevent := Exchange.event?_of_inputsRead_eq channel
      { channel with terminatorSent := true }.passTurn Dialogue.terminator rfl
    have hsent : channel.terminatorSent = false := by
      refine Bool.eq_false_iff.mpr fun hsent ↦ ?_
      rw [h.inStep.turn_eq_drained_iff.mpr hsent] at hturn
      contradiction
    refine ⟨hstep, h.events_append hevent rfl, ?_, ?_⟩
    · rw [List.countP_append, h.terminator, hsent, List.countP_singleton,
        Exchange.isTerminator_of_line rfl rfl, hevent]
      rfl
    · rw [firstRefusal?_append, ← h.failure]
      exact Option.or_none.symm
  | @output text pattern mode hfailure hchatter hturn hcurrent haccepts =>
    have hevent := Exchange.event?_of_outputsMatched_lt channel
      (channel.accept text.unifyBreaks) text (Nat.lt_succ_self channel.outputsMatched)
    have hperforms := Event.performs_expect_iff.mpr haccepts
    exact h.append hstep (h.events_append_cons hevent hcurrent hperforms rfl)
      (Exchange.isTerminator_of_done rfl) rfl rfl rfl
  | chatter =>
    exact h.append hstep (h.events_append (Exchange.event?_of_outputsMatched_eq _ _ _ rfl) rfl)
      (Exchange.isTerminator_of_done rfl) rfl rfl rfl
  | newline =>
    exact h.append hstep (h.events_append (Exchange.event?_of_outputsMatched_eq _ _ _ rfl) rfl)
      (Exchange.isTerminator_of_done rfl) rfl rfl rfl
  | note => exact h.append hstep (h.events_append rfl rfl) rfl rfl rfl rfl
  | finish => exact h.append hstep (h.events_append rfl rfl) rfl rfl rfl rfl

theorem serve (h : Recorded script marks exchanges channel) (request : Request) :
    Recorded script marks (exchanges ++ [channel.exchange request]) (channel.serve request).2 :=
  h.transition (transition_serve channel request)

/-- Any more exchanges keep the record. -/
theorem serveAll (h : Recorded script marks exchanges channel) (requests : List Request) :
    Recorded script marks (exchanges ++ channel.exchanges requests)
      (channel.serveAll requests) := by
  induction requests generalizing channel exchanges with
  | nil => simpa [Channel.exchanges] using h
  | cons request rest ih => simpa [Channel.exchanges] using ih (h.serve request)

end Recorded

theorem recorded_start (script : Script) (marks : Marks) :
    Recorded script marks [] (start script marks) :=
  ⟨inStep_start script marks, .nil, rfl, rfl⟩

/-- The exchanges on a fresh channel are a record of its run. -/
theorem recorded_serveAll (script : Script) (marks : Marks) (requests : List Request) :
    Recorded script marks ((start script marks).exchanges requests)
      ((start script marks).serveAll requests) := by
  simpa using (recorded_start script marks).serveAll requests

/-! ### The order of events -/

/-- A line that is not one of the script is the terminator, and comes when no input is due. -/
theorem Transition.of_isTerminator {channel after : Channel} {request : Request} {answer : Answer}
    (h : channel.Transition request answer after)
    (hterminator : Exchange.isTerminator ⟨channel, request, answer, after⟩ = true) :
    answer = .line Dialogue.terminator ∧ channel.turn = .awaitingRead ∧
      ∀ line, channel.current? ≠ some (.input line) := by
  cases h with
  | terminator hfailure hturn hcurrent => exact ⟨rfl, hturn, hcurrent⟩
  | input =>
    rw [Exchange.isTerminator_of_line rfl rfl,
      Exchange.event?_of_inputsRead_lt _ _ _ (Nat.lt_succ_self channel.inputsRead)] at hterminator
    contradiction
  | repeated =>
    rw [Exchange.isTerminator_of_refused rfl] at hterminator
    contradiction
  | refused =>
    rw [Exchange.isTerminator_of_refused rfl] at hterminator
    contradiction
  | output => contradiction
  | chatter => contradiction
  | newline => contradiction
  | note => contradiction
  | finish => contradiction

/-- Nothing is read when the script is done with. -/
theorem refusal_of_drained {channel : Channel} (hturn : channel.turn = .drained) :
    ∃ deviation, (channel.serve .read).1 = .refused deviation := by
  have htransition := transition_serve channel .read
  generalize (channel.serve .read).1 = answer at htransition ⊢
  generalize (channel.serve .read).2 = after at htransition
  cases htransition with
  | repeated => exact ⟨_, rfl⟩
  | refused => exact ⟨_, rfl⟩
  | input _ hread =>
    rw [hturn] at hread
    contradiction
  | terminator _ hread =>
    rw [hturn] at hread
    contradiction

/-- A run can be finished exactly if nothing deviated and the script is done with. -/
theorem serve_finish_eq_done_iff (channel : Channel) :
    (channel.serve .finish).1 = .done ↔ channel.failure = none ∧ channel.turn = .drained := by
  have htransition := transition_serve channel .finish
  generalize (channel.serve .finish).1 = answer at htransition ⊢
  generalize (channel.serve .finish).2 = after at htransition
  cases htransition with
  | repeated hfailure => simp [hfailure]
  | refused hfailure hcause =>
    cases hcause with
    | unfinished hturn => simp [hturn]
  | finish hfailure hturn => simp [hfailure, hturn]

namespace Recorded

variable {script : Script} {marks : Marks} {exchanges : List Exchange} {channel : Channel}

/-- A run can be finished exactly if nothing was refused and nothing is left. -/
theorem finish_iff (h : Recorded script marks exchanges channel) :
    (channel.serve .finish).1 = .done ↔
      (∀ exchange ∈ exchanges, exchange.answer.refusal? = none) ∧
        (Channel.events exchanges).length = script.steps.length ∧
        ∃ exchange ∈ exchanges, exchange.isTerminator = true := by
  rw [serve_finish_eq_done_iff, h.failure, firstRefusal?_eq_none_iff,
    h.inStep.turn_eq_drained_iff, h.length_events, ← h.terminatorSent_iff]
  refine and_congr_right fun _ ↦ ⟨fun hsent ↦ ⟨h.inStep.terminatorSent hsent, hsent⟩, And.right⟩

/-- The terminator is read behind the last step. -/
theorem of_isTerminator {request : Request} (h : Recorded script marks exchanges channel)
    (hterminator : (channel.exchange request).isTerminator = true) :
    (channel.exchange request).answer = .line Dialogue.terminator ∧
      (Channel.events exchanges).length = script.steps.length := by
  obtain ⟨hanswer, hturn, hcurrent⟩ :=
    (transition_serve channel request).of_isTerminator hterminator
  refine ⟨hanswer, h.length_events.trans ?_⟩
  exact h.inStep.consumed_eq_of_awaitingRead hturn hcurrent

/-- Nothing is read behind the terminator. -/
theorem refusal_of_mem_isTerminator {exchange : Exchange}
    (h : Recorded script marks exchanges channel) (hmem : exchange ∈ exchanges)
    (hterminator : exchange.isTerminator = true) :
    ∃ deviation, (channel.serve .read).1 = .refused deviation :=
  refusal_of_drained (h.inStep.turn_eq_drained_iff.mpr
    (h.terminatorSent_iff.mpr ⟨exchange, hmem, hterminator⟩))

end Recorded

/-- On a fresh channel, and whatever is asked of it: the events perform the steps of the script one
by one from the first on, none being left out, repeated or moved. The terminator is read once at
most, behind the last step, and nothing is read after it. A request to finish is granted exactly if
nothing was refused before, no step is left, and the terminator was read. -/
theorem exchanges_in_order (script : Script) (marks : Marks) (requests : List Request) :
    let exchanges := (start script marks).exchanges requests
    List.Forall₂ Event.Performs (events exchanges)
        (script.steps.take (events exchanges).length) ∧
      exchanges.countP Exchange.isTerminator ≤ 1 ∧
      ∀ earlier exchange later, exchanges = earlier ++ exchange :: later →
        (exchange.isTerminator = true →
          exchange.answer = .line terminator ∧
            (events earlier).length = script.steps.length ∧
            ∀ other ∈ later, other.request = .read →
              ∃ deviation, other.answer = .refused deviation) ∧
        (exchange.request = .finish →
          (exchange.answer = .done ↔
            (∀ other ∈ earlier, other.answer.refusal? = none) ∧
              (events earlier).length = script.steps.length ∧
              ∃ other ∈ earlier, other.isTerminator = true)) := by
  intro exchanges
  have hrun := recorded_serveAll script marks requests
  refine ⟨?_, ?_, fun earlier exchange later hsplit ↦ ⟨fun hterminator ↦ ?_, fun hrequest ↦ ?_⟩⟩
  · rw [hrun.length_events]
    exact hrun.events
  · rw [hrun.terminator]
    split <;> decide
  · obtain ⟨first, request, second, -, hearlier, hexchange, -⟩ := exchanges_eq_append_cons hsplit
    have hfirst := recorded_serveAll script marks first
    rw [← hearlier] at hfirst
    rw [hexchange] at hterminator
    obtain ⟨hanswer, hlength⟩ := hfirst.of_isTerminator hterminator
    refine ⟨hexchange ▸ hanswer, hlength, fun other hother hread ↦ ?_⟩
    -- The exchanges before the other one are a record that holds the terminator.
    obtain ⟨between, after, rfl⟩ := List.append_of_mem hother
    have hagain : exchanges = (earlier ++ exchange :: between) ++ other :: after := by
      rw [hsplit, List.append_assoc, List.cons_append]
    obtain ⟨longer, found, -, -, hbefore, hfound, -⟩ := exchanges_eq_append_cons hagain
    have hlonger := recorded_serveAll script marks longer
    rw [← hbefore] at hlonger
    rw [hfound] at hread ⊢
    change found = .read at hread
    rw [hread]
    exact hlonger.refusal_of_mem_isTerminator (by simp) (hexchange ▸ hterminator)
  · obtain ⟨first, request, second, -, hearlier, hexchange, -⟩ := exchanges_eq_append_cons hsplit
    have hfirst := recorded_serveAll script marks first
    rw [← hearlier] at hfirst
    rw [hexchange] at hrequest ⊢
    change request = .finish at hrequest
    rw [hrequest]
    exact hfirst.finish_iff

end Dialogue.Channel
