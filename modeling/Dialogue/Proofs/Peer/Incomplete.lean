import Dialogue.Proofs.Channel.Position
import Dialogue.Proofs.Peer.Passed

/-!
# Runs of a process that end too early

That a run was incomplete is said in two places. When a process is done, the channel tells what is
left of its script; and when it has not taken the terminator, the conversation says that the
terminator is left. The conversation knows the terminator by its text, and a script may have an
input of the same text.

No early end is recorded on the channel while a process is talked to (`Channel.Underway`), so these
two are the only places (`deviation_play`, `Ends.untaken_of_incomplete`), and what passes tells
which of them it was (`Converses.untaken_iff`). The channel always tells the truth
(`InStep.isLeft_pending`), and so does the conversation if it was the terminator indeed
(`isLeft_terminator_iff`). `incomplete_tells_what_is_left` puts this together: what is said to be
left is what is left, unless the last line that was sent was an input that reads like the
terminator, and was not taken (`incomplete_misses_output`).
-/

set_option autoImplicit false
set_option relaxedAutoImplicit false

namespace Dialogue

/-! ### What is left -/

/-- That only the terminator is left is said of nothing else. -/
theorem Pending.message_eq_iff {pending : Pending} :
    pending.message = Pending.message ⟨0, 0, true⟩ ↔ pending = ⟨0, 0, true⟩ := by
  refine ⟨fun h ↦ ?_, congrArg message⟩
  -- The last letter tells the wordings apart, but for the one for nothing at all.
  have hlast : pending.message.getLast? = some 'e' := by
    rw [h]
    decide +kernel
  have hcount {opening count closing : Text} (hclosing : closing.getLast? = some ')') :
      (opening ++ (count ++ closing)).getLast? ≠ some 'e' := by
    simp [List.getLast?_append, hclosing]
  obtain ⟨inputs, outputs, owed⟩ := pending
  match inputs, outputs with
  | 0, 0 =>
    cases owed with
    | true => rfl
    | false => exact absurd h (by decide +kernel)
  | inputs + 1, 0 => exact absurd hlast (hcount (by decide +kernel))
  | 0, outputs + 1 => exact absurd hlast (hcount (by decide +kernel))
  | inputs + 1, outputs + 1 => exact absurd hlast (hcount (by decide +kernel))

/-- The inputs and the outputs are those of the script that a channel has not handed out or matched.
-/
def Pending.IsLeft (pending : Pending) (script : Script) (channel : Channel) : Prop :=
  channel.inputsRead + pending.inputs = script.inputCount ∧
    channel.outputsMatched + pending.outputs = script.outputCount

namespace Channel

variable {script : Script} {marks : Marks} {channel : Channel}

/-- A channel tells what is left. -/
theorem InStep.isLeft_pending (h : channel.InStep script marks) :
    channel.pending.IsLeft script channel := by
  rw [h.pending_eq]
  exact ⟨h.inputsRead_add, h.outputsMatched_add⟩

/-- Only the terminator is left exactly if every step is done. -/
theorem InStep.isLeft_terminator_iff (h : channel.InStep script marks) (owed : Bool) :
    Pending.IsLeft ⟨0, 0, owed⟩ script channel ↔ channel.consumed = script.steps.length := by
  have hinputs := h.inputsRead_add
  have houtputs := h.outputsMatched_add
  have hsteps : script.inputCount + script.outputCount = script.steps.length :=
    Step.countP_isInput_add_countP_isExpect script.steps
  simp only [Pending.IsLeft, consumed, Nat.add_zero] at *
  omega

/-- To say that only the terminator is left is true exactly if every step is done. -/
theorem InStep.tells_terminator_iff (h : channel.InStep script marks) :
    (∃ pending : Pending, Pending.message ⟨0, 0, true⟩ = pending.message ∧
        pending.IsLeft script channel) ↔ channel.consumed = script.steps.length := by
  rw [← h.isLeft_terminator_iff true]
  constructor
  · rintro ⟨pending, hmessage, hleft⟩
    rwa [Pending.message_eq_iff.mp hmessage.symm] at hleft
  · exact fun hleft ↦ ⟨_, rfl, hleft⟩

/-! ### While a program runs -/

/-- A channel is in step with its script, and no early end has been recorded on it. -/
structure Underway (script : Script) (marks : Marks) (channel : Channel) : Prop where
  inStep : channel.InStep script marks
  unended : ∀ pending, channel.failure ≠ some (.incomplete pending)

/-- Only at the end an early end is recorded. -/
theorem Underway.serve (h : channel.Underway script marks) {request : Request}
    (hrequest : request ≠ .finish) : (channel.serve request).2.Underway script marks := by
  have htransition := transition_serve channel request
  refine ⟨h.inStep.serve request, fun pending hrecorded ↦ ?_⟩
  generalize (channel.serve request).1 = answer at htransition
  generalize (channel.serve request).2 = after at htransition hrecorded
  cases htransition with
  | refused _ hcause =>
    obtain rfl := Option.some.inj hrecorded
    cases hcause
    exact hrequest rfl
  | repeated | input | terminator | output | chatter | newline | note | finish =>
    exact h.unended pending hrecorded

theorem keptByWrites_underway : KeptByWrites (Underway script marks) :=
  fun _ text h ↦ h.serve (show Request.write text ≠ .finish by simp)

end Channel

namespace Console

variable {script : Script} {marks : Marks} {console after : Console}

theorem underway_readLine (h : console.channel.Underway script marks) :
    console.readLine.2.channel.Underway script marks := by
  have hall := keeps_emitAll Channel.keptByWrites_underway h
  rw [readLine]
  rcases hemit : console.emitAll with ⟨deviation | _, emitted⟩
  · rwa [hemit] at hall
  · rw [hemit] at hall
    exact hall.serve (show Channel.Request.read ≠ .finish by simp)

/-- When the terminator is read, every step is done, unless it is an input of the script. -/
theorem consumed_eq_of_readLine (h : console.channel.Underway script marks)
    (hread : console.readLine = (.ok terminator, after)) :
    after.channel.consumed = script.steps.length ∨ terminator ∈ script.inputs := by
  have hall := keeps_emitAll Channel.keptByWrites_underway h
  obtain ⟨channel, hemit, hanswer, -⟩ := exists_of_readLine hread
  rw [hemit] at hall
  have htransition := Channel.transition_read channel
  rw [hanswer] at htransition
  generalize after.channel = last at htransition
  change channel.Transition _ (.line terminator) _ at htransition
  generalize hother : terminator = line at htransition
  cases htransition with
  | input _ _ hcurrent =>
    subst hother
    rw [hall.inStep.current?_eq] at hcurrent
    exact .inr (List.mem_filterMap.mpr ⟨_, List.mem_of_getElem? hcurrent, rfl⟩)
  | terminator _ hturn hcurrent =>
    exact .inl (hall.inStep.consumed_eq_of_awaitingRead hturn hcurrent)

end Console

namespace Peer

/-! ### The end of a conversation -/

section Conversation

variable {peer : Peer} {limit : Duration} {script : Script} {marks : Marks}
  {console after : Console} {state next : peer.State} {moments : List (Moment peer.State)}
  {result : Option Fault × Console × peer.State}

theorem underway_goesOn {moment : Moment peer.State} (h : console.channel.Underway script marks)
    (hstep : peer.GoesOn console state moment after next) :
    after.channel.Underway script marks := by
  cases hstep with
  | sent _ hread =>
    have hafter := Console.underway_readLine h
    rwa [hread] at hafter
  | @passedOn text _ _ _ _ hprint =>
    have hafter := Console.keeps_printLine Channel.keptByWrites_underway h text
    rwa [hprint] at hafter

theorem underway_leads (h : console.channel.Underway script marks)
    (hleads : peer.Leads console state moments after next) :
    after.channel.Underway script marks := by
  induction hleads with
  | here => exact h
  | goesOn hstep _ ih => exact ih (underway_goesOn h hstep)

theorem underway_ends (h : console.channel.Underway script marks)
    (hends : peer.Ends limit console state moments result) :
    result.2.1.channel.Underway script marks := by
  cases hends with
  | drained | unreadable | silence | closed => exact h
  | refusedRead _ hread | unsendable _ hread | untaken _ hread =>
    have hafter := Console.underway_readLine h
    rwa [hread] at hafter
  | @refusedLine text _ _ _ _ _ hprint =>
    have hafter := Console.keeps_printLine Channel.keptByWrites_underway h text
    rwa [hprint] at hafter

theorem underway_converse (limit : Duration) (state : peer.State)
    (h : console.channel.Underway script marks) :
    (peer.converse limit console state).2.1.channel.Underway script marks := by
  obtain ⟨moments, hconverses⟩ := exists_converses peer limit console state
  obtain ⟨earlier, last, lastState, left, -, hleads, hends⟩ := hconverses.exists_leads
  exact underway_ends (underway_leads h hleads) hends

/-- An early end that is no record of the channel is that of a process that has not taken the
terminator. -/
theorem Ends.untaken_of_incomplete {fault : Fault} {pending : Pending}
    (hends : peer.Ends limit console state moments result)
    (h : console.channel.Underway script marks) (hfault : result.1 = some fault)
    (hdeviation : fault.deviation? = some (.incomplete pending)) :
    pending = ⟨0, 0, true⟩ ∧ moments = [⟨state, .sent terminator false⟩] ∧
      console.readLine = (.ok terminator, result.2.1) := by
  have hafter := underway_ends h hends
  cases hends with
  | drained | closed => contradiction
  | unsendable | unreadable | silence =>
    obtain rfl := Option.some.inj hfault
    contradiction
  | untaken _ hread =>
    obtain rfl := Option.some.inj hfault
    exact ⟨(Deviation.incomplete.inj (Option.some.inj hdeviation)).symm, rfl, hread⟩
  | refusedRead _ hread =>
    obtain rfl := Option.some.inj hfault
    have hmakes := console.makes_readLine
    rw [hread] at hmakes
    exact absurd (hmakes.failure_eq.trans hdeviation) (hafter.unended pending)
  | refusedLine _ _ hprint =>
    obtain rfl := Option.some.inj hfault
    exact absurd ((Channel.failure_of_drain hprint).trans hdeviation) (hafter.unended pending)

/-- A conversation goes on only if the terminator is taken. -/
theorem Leads.taken (h : peer.Leads console state moments after next) :
    (terminator, false) ∉ moments.filterMap Moment.sending? := by
  induction h with
  | here => exact List.not_mem_nil
  | goesOn hstep _ ih =>
    cases hstep with
    | @sent line taken _ _ _ _ _ htaken =>
      change _ ∉ (line, taken) :: _
      rw [List.mem_cons, not_or]
      refine ⟨fun heq ↦ ?_, ih⟩
      obtain ⟨hline, huntaken⟩ := Prod.mk.inj heq
      simp [← huntaken] at htaken
      exact htaken hline.symm
    | passedOn => exact ih

/-- The last line that is sent is the terminator, and is not taken, exactly if the conversation
ends with that. -/
theorem Converses.untaken_iff (h : peer.Converses limit console state moments result)
    (hopened : console.channel.Underway script marks) :
    (moments.filterMap Moment.sending?).getLast? = some (terminator, false) ↔
      result.1 = some unreadTerminator := by
  obtain ⟨earlier, last, lastState, left, rfl, hleads, hends⟩ := h.exists_leads
  rw [List.filterMap_append]
  constructor
  · intro hlast
    rcases List.mem_append.mp (List.mem_of_getLast? hlast) with hmem | hmem
    · exact absurd hmem hleads.taken
    · cases hends with
      | untaken => rfl
      | drained | refusedRead | unsendable | refusedLine | unreadable | silence | closed =>
        contradiction
  · intro hfault
    obtain ⟨-, rfl, -⟩ :=
      hends.untaken_of_incomplete (underway_leads hopened hleads) hfault rfl
    exact List.getLast?_concat

end Conversation

/-! ### The end of a process -/

section Play

variable {peer : Peer} {limit : Duration} {script : Script} {marks : Marks} {console last : Console}

theorem underway_play (peer : Peer) (limit : Duration)
    (h : console.channel.Underway script marks) :
    (peer.play limit console).2.channel.Underway script marks := by
  have hconversed := underway_converse limit peer.initial h
  have hplays := plays_play peer limit console
  generalize peer.play limit console = played at hplays ⊢
  cases hplays with
  | faulted hconverse | overflow hconverse | lingering hconverse => rwa [hconverse] at hconversed
  | @refused _ _ _ state hconverse hpass | @returned _ _ state hconverse _ _ hpass =>
    rw [hconverse] at hconversed
    have hpassed := keeps_passOn Channel.keptByWrites_underway hconversed (peer.close state).2
    rwa [hpass] at hpassed

/-- A line that is left over and refused is recorded. -/
theorem failure_passOn {rest : List (Option Text)} {fault : Fault} {deviation : Deviation}
    (hpass : passOn console rest = (some fault, last))
    (hdeviation : fault.deviation? = some deviation) : last.channel.failure = some deviation := by
  fun_induction passOn console rest with
  | case1 => exact absurd (congrArg Prod.fst hpass) (by simp)
  | case2 =>
    obtain ⟨hfault, -⟩ := Prod.mk.inj hpass
    obtain rfl := Option.some.inj hfault
    contradiction
  | case3 console text rest refusal after hprint =>
    obtain ⟨hfault, rfl⟩ := Prod.mk.inj hpass
    obtain rfl := Option.some.inj hfault
    obtain rfl := Option.some.inj hdeviation
    exact Channel.failure_of_drain hprint
  | case4 _ _ _ _ _ ih => exact ih hpass

/-- A deviation that a process ends with is recorded, or the conversation with it ended so. -/
theorem deviation_play {ending : Ending} {fault : Fault} {deviation : Deviation}
    (hplay : peer.play limit console = (ending, last)) (hfault : Run.faultOf? ending = some fault)
    (hdeviation : fault.deviation? = some deviation) :
    last.channel.failure = some deviation ∨
      ∃ state, peer.converse limit console peer.initial = (some fault, last, state) := by
  have hplays := plays_play peer limit console
  rw [hplay] at hplays
  cases hplays with
  | faulted hconverse =>
    obtain rfl := Option.some.inj hfault
    exact .inr ⟨_, hconverse⟩
  | overflow | lingering =>
    obtain rfl := Option.some.inj hfault
    contradiction
  | refused hconverse hpass =>
    obtain rfl := Option.some.inj hfault
    exact .inl (failure_passOn hpass hdeviation)
  | returned => contradiction

/-- A process that ends with an early end that is not recorded has not taken the terminator, and
nothing is held back then. -/
theorem untaken_of_play {ending : Ending} {fault : Fault} {pending : Pending}
    (h : console.channel.Underway script marks) (hplay : peer.play limit console = (ending, last))
    (hfault : Run.faultOf? ending = some fault)
    (hdeviation : fault.deviation? = some (.incomplete pending)) :
    pending = ⟨0, 0, true⟩ ∧ last.pending = [] ∧
      ((peer.moments limit console).filterMap Moment.sending?).getLast? =
        some (terminator, false) ∧
      (last.channel.consumed = script.steps.length ∨ terminator ∈ script.inputs) := by
  have hlast := underway_play peer limit h
  rw [hplay] at hlast
  rcases deviation_play hplay hfault hdeviation with hrecorded | ⟨state, hconverse⟩
  · exact absurd hrecorded (hlast.unended pending)
  · have hconverses := converses_iff.mpr ⟨hconverse, rfl⟩
    obtain ⟨earlier, before, _, left, hmoments, hleads, hends⟩ := hconverses.exists_leads
    have hbefore := underway_leads h hleads
    obtain ⟨hpending, rfl, hread⟩ := hends.untaken_of_incomplete hbefore rfl hdeviation
    refine ⟨hpending, ?_, ?_, Console.consumed_eq_of_readLine hbefore hread⟩
    · obtain ⟨-, -, -, hnothing⟩ := Console.exists_of_readLine hread
      exact hnothing
    · rw [hmoments, List.filterMap_append]
      exact List.getLast?_concat

/-- A process that ends well has taken the terminator if it was sent last. -/
theorem taken_of_play (h : console.channel.Underway script marks)
    (hplay : peer.play limit console = (.returned, last)) :
    ((peer.moments limit console).filterMap Moment.sending?).getLast? ≠
      some (terminator, false) := by
  obtain ⟨-, after, state, hconverse, -⟩ := play_eq_returned_iff.mp hplay
  have hconverses := converses_iff.mpr ⟨hconverse, rfl⟩
  rw [Ne, hconverses.untaken_iff h]
  simp

end Play

/-- A process that takes some lines and says others, and then closes its output. -/
def hearing (taken : Nat) (lines : List Text) : Peer where
  State := Nat × List Text
  initial := (taken, lines)
  send := fun _ (left, said) ↦ (left != 0, (left - 1, said))
  receive
    | (left, line :: said) => (.line line, (left, said))
    | (left, []) => (.closed, (left, []))
  close := fun (_, said) ↦ (true, said.map some)
  ahead state := state.2.length
  ahead_receive_lt := by
    rintro ⟨left, _ | ⟨line, said⟩⟩ after text h
    · simp at h
    · simp only [Prod.mk.injEq] at h
      simp [← h.2]

end Peer

namespace Run

open Peer

/-! ### What the report says -/

/-- A fault counts as an early end only if it stands for one. -/
theorem exists_of_incomplete_fault {fault : Fault}
    (h : (Failure.ofFault fault).kind = .incompleteRun) :
    ∃ pending : Pending, fault.deviation? = some (.incomplete pending) ∧
      (Failure.ofFault fault).message = pending.message := by
  unfold Failure.ofFault at h ⊢
  rcases hdeviation : fault.deviation? with _ | (violation | ⟨expected, actual⟩ | pending)
  · rw [hdeviation] at h
    contradiction
  · rw [hdeviation] at h
    contradiction
  · rw [hdeviation] at h
    contradiction
  · exact ⟨pending, rfl, rfl⟩

/-- Of a channel on which no early end is recorded, a run is judged incomplete for a fault that says
so, or else because it is not done. -/
theorem incomplete_of_judge {script : Script} {marks : Marks} {ending : Ending} {channel : Channel}
    {failure : Failure} (h : channel.Underway script marks)
    (hjudged : (judge ending channel).1 = .failed failure) (hkind : failure.kind = .incompleteRun) :
    (∃ fault pending, faultOf? ending = some fault ∧
        fault.deviation? = some (.incomplete pending) ∧ failure.message = pending.message) ∨
      ending = .returned ∧ failure.message = channel.pending.message := by
  unfold judge at hjudged
  split at hjudged
  · next deviation hrecorded =>
    obtain rfl := Outcome.failed.inj hjudged
    cases deviation with
    | violation | mismatch => contradiction
    | incomplete pending => exact absurd hrecorded (h.unended pending)
  · next hfailure =>
    split at hjudged
    · next fault hfault =>
      obtain rfl := Outcome.failed.inj hjudged
      obtain ⟨pending, hdeviation, hmessage⟩ := exists_of_incomplete_fault hkind
      exact .inl ⟨fault, pending, hfault, hdeviation, hmessage⟩
    · next hfault =>
      refine .inr ⟨faultOf?_eq_none_iff.mp hfault, ?_⟩
      unfold Channel.finish at hjudged
      rw [hfailure] at hjudged
      dsimp only at hjudged
      split_ifs at hjudged
      exact (congrArg Failure.message (Outcome.failed.inj hjudged)).symm

theorem underway_openChannel (script : Script) (marks : Marks) (name : Text) :
    (openChannel script marks name).Underway script marks :=
  ⟨(Channel.inStep_start script marks).serve (.note (openingLine marks name)), by
    simp [openChannel, Channel.note, Channel.start]⟩

section FinalState

variable {name : Text} {limit : Duration} {start : List Text → Except Fault Peer} {script : Script}

/-- A process that could not be started has said nothing. -/
theorem finalState_ofPeer_error {fault : Fault} (marks : Marks) (opening : Text)
    (hstart : start script.argumentList = .error fault) :
    finalState (Program.ofPeer name limit start) script marks opening =
      (.faulted fault,
        (Console.opened (openChannel script marks opening)).emitAll.2.channel) := by
  simp only [finalState, Program.ofPeer, hstart]

/-- What a process has left at its console goes out at its end. -/
theorem finalState_ofPeer {peer : Peer} {ending : Ending} {last : Console} (marks : Marks)
    (opening : Text) (hstart : start script.argumentList = .ok peer)
    (hplay : peer.play limit (Console.opened (openChannel script marks opening)) = (ending, last)) :
    finalState (Program.ofPeer name limit start) script marks opening =
      (ending, last.emitAll.2.channel) := by
  simp only [finalState, Program.ofPeer, hstart, hplay]

end FinalState

/-- What a process that ends too early is said to have left is what it has left, unless the last
line that was sent to it was an input of the script that reads like the terminator and was not
taken: then the terminator is said to be left although there are steps. So if no input reads like
the terminator, the message always tells the truth. -/
theorem incomplete_tells_what_is_left (host : Host) (name : Text) (limit : Duration)
    (spawn : List Text → Except Text Peer) (path : Path) (script : Script) (options : Options)
    {failure : Failure}
    (hfailed : (logged host (Program.ofPeer name limit fun arguments ↦
      (spawn arguments).mapError .reported) path script options).1.outcome = .failed failure)
    (hkind : failure.kind = .incompleteRun) :
    let program := Program.ofPeer name limit fun arguments ↦ (spawn arguments).mapError .reported
    let console := Console.opened (openChannel script options.marks path.displayName)
    let channel := (finalState program script options.marks path.displayName).2
    ∃ peer, spawn script.argumentList = .ok peer ∧
      let sent := (peer.moments limit console).filterMap Moment.sending?
      ((∃ pending : Pending, failure.message = pending.message ∧ pending.IsLeft script channel) ↔
        ¬(sent.getLast? = some (terminator, false) ∧
          channel.consumed < script.steps.length)) ∧
      (sent.getLast? = some (terminator, false) →
        failure.message = Pending.message ⟨0, 0, true⟩ ∧
          (channel.consumed < script.steps.length → terminator ∈ script.inputs)) := by
  intro program console channel
  obtain ⟨houtcome, -, -⟩ := logged_fst host program path script options
  have hjudged := houtcome.symm.trans hfailed
  have hopened : console.channel.Underway script options.marks :=
    underway_openChannel script options.marks path.displayName
  cases hspawn : spawn script.argumentList with
  | error reason =>
    have hstart : (spawn script.argumentList).mapError Fault.reported =
        .error (.reported reason) := by
      rw [hspawn]
      rfl
    rw [finalState_ofPeer_error options.marks path.displayName hstart] at hjudged
    have hchannel := Console.keeps_emitAll Channel.keptByWrites_underway hopened
    rcases incomplete_of_judge hchannel hjudged hkind with
      ⟨fault, pending, hfault, hdeviation, -⟩ | ⟨hended, -⟩
    · obtain rfl := Option.some.inj hfault
      contradiction
    · contradiction
  | ok peer =>
    refine ⟨peer, rfl, ?_⟩
    intro sent
    have hstart : (spawn script.argumentList).mapError Fault.reported = .ok peer := by
      rw [hspawn]
      rfl
    rcases hplay : peer.play limit console with ⟨ending, last⟩
    have hfinal : finalState program script options.marks path.displayName =
        (ending, last.emitAll.2.channel) :=
      finalState_ofPeer options.marks path.displayName hstart hplay
    have hlast := underway_play peer limit hopened
    rw [hplay] at hlast
    have hchannel := Console.keeps_emitAll Channel.keptByWrites_underway hlast
    have heq : channel = last.emitAll.2.channel := congrArg Prod.snd hfinal
    rw [hfinal] at hjudged
    rw [heq]
    rcases incomplete_of_judge hchannel hjudged hkind with
      ⟨fault, pending, hfault, hdeviation, hmessage⟩ | ⟨rfl, hmessage⟩
    · -- The process has not taken the terminator, and nothing goes out behind that.
      obtain ⟨rfl, hnothing, hsent, hread⟩ := untaken_of_play hopened hplay hfault hdeviation
      obtain ⟨channel, held⟩ := last
      obtain rfl : held = [] := hnothing
      rw [Console.emitAll_nil] at hchannel ⊢
      refine ⟨?_, fun _ ↦ ⟨hmessage, fun hlt ↦ hread.resolve_left hlt.ne⟩⟩
      have hle := hchannel.inStep.consumed_le
      rw [hmessage, hchannel.inStep.tells_terminator_iff, and_iff_right hsent, not_lt]
      exact ⟨fun hdone ↦ hdone.ge, fun hge ↦ Nat.le_antisymm hle hge⟩
    · -- The channel tells what is left.
      have htaken := taken_of_play hopened hplay
      exact ⟨iff_of_true ⟨_, hmessage, hchannel.inStep.isLeft_pending⟩ fun h ↦ htaken h.1,
        fun h ↦ absurd h htaken⟩

/-- A process that stops listening after the first input: the second one is not taken, and when the
process closes its output it is said to owe an output. -/
theorem incomplete_tells_what_is_left_output :
    let script : Script :=
      ⟨none, [.input "x".toList, .expect "a".toList .exact, .input "y".toList,
        .expect "b".toList .exact], List.cons_ne_nil _ _⟩
    let limit := Duration.ofSeconds 5
    let program := Program.ofPeer [] limit fun _ ↦
      (.ok (hearing 1 ["a".toList]) : Except Text Peer).mapError .reported
    let report := (logged default program default script ⟨Marks.standard, none⟩).1
    let channel := (finalState program script Marks.standard (Path.displayName default)).2
    let failure : Failure := ⟨.incompleteRun, "expected 1 more output(s)".toList, none, none⟩
    report.outcome = .failed failure ∧ failure.kind = .incompleteRun ∧
      ∃ pending : Pending, failure.message = pending.message ∧ pending.IsLeft script channel := by
  intro script limit program report channel failure
  let peer := hearing 1 ["a".toList]
  let console := Console.opened (openChannel script Marks.standard (Path.displayName default))
  let asked := console.readLine.2
  let answered := (asked.printLine "a".toList).2
  let told := answered.readLine.2
  have hasked : console.readLine = (.ok "x".toList, asked) := Prod.ext (by decide +kernel) rfl
  have hanswered : asked.printLine "a".toList = (.ok (), answered) :=
    Prod.ext (by decide +kernel) rfl
  have htold : answered.readLine = (.ok "y".toList, told) := Prod.ext (by decide +kernel) rfl
  have hconverses : peer.Converses limit console peer.initial _ (none, told, (0, [])) :=
    .goesOn (.sent (by decide +kernel) hasked rfl (by decide)) <|
    .goesOn (.passedOn (by decide +kernel) rfl hanswered) <|
    .goesOn (.sent (by decide +kernel) htold rfl (by decide)) <|
    .ends (.closed (by decide +kernel) rfl)
  obtain ⟨hconverse, hmoments⟩ := converses_iff.mp hconverses
  have hplay : peer.play limit console = (.returned, told) :=
    play_eq_returned_iff.mpr ⟨by decide +kernel, told, _, hconverse, rfl, rfl⟩
  have hfailed : report.outcome = .failed failure := by
    obtain ⟨houtcome, -, -⟩ := logged_fst default program default script ⟨Marks.standard, none⟩
    refine houtcome.trans ?_
    change (judge (peer.play limit console).1 (peer.play limit console).2.emitAll.2.channel).1 =
      _
    rw [hplay]
    decide +kernel
  obtain ⟨other, hother, htells, -⟩ := incomplete_tells_what_is_left default [] limit
    (fun _ ↦ .ok peer) default script ⟨Marks.standard, none⟩ hfailed rfl
  obtain rfl := Except.ok.inj hother
  refine ⟨hfailed, rfl, htells.mpr fun h ↦ ?_⟩
  have hlast := h.1
  rw [hmoments] at hlast
  exact absurd hlast (by decide)

/-- The same process, with a second input that reads like the terminator: the terminator is said to
be left, and the output is not mentioned. -/
theorem incomplete_misses_output :
    let script : Script :=
      ⟨none, [.input "x".toList, .expect "a".toList .exact, .input "quit".toList,
        .expect "b".toList .exact], List.cons_ne_nil _ _⟩
    let limit := Duration.ofSeconds 5
    let program := Program.ofPeer [] limit fun _ ↦
      (.ok (hearing 1 ["a".toList]) : Except Text Peer).mapError .reported
    let report := (logged default program default script ⟨Marks.standard, none⟩).1
    let channel := (finalState program script Marks.standard (Path.displayName default)).2
    let failure : Failure :=
      ⟨.incompleteRun, "expected the program to read the terminator line".toList, none, none⟩
    Script.parse "\"a\" : \"x\"\n\"b\" : \"quit\"\n".toList = .ok script ∧
      report.outcome = .failed failure ∧ channel.outputsMatched + 1 = script.outputCount ∧
      ¬∃ pending : Pending, failure.message = pending.message ∧ pending.IsLeft script channel := by
  intro script limit program report channel failure
  let peer := hearing 1 ["a".toList]
  let console := Console.opened (openChannel script Marks.standard (Path.displayName default))
  let asked := console.readLine.2
  let answered := (asked.printLine "a".toList).2
  let told := answered.readLine.2
  have hasked : console.readLine = (.ok "x".toList, asked) := Prod.ext (by decide +kernel) rfl
  have hanswered : asked.printLine "a".toList = (.ok (), answered) :=
    Prod.ext (by decide +kernel) rfl
  have htold : answered.readLine = (.ok terminator, told) := Prod.ext (by decide +kernel) rfl
  have hconverses : peer.Converses limit console peer.initial _
      (some unreadTerminator, told, (0, [])) :=
    .goesOn (.sent (by decide +kernel) hasked rfl (by decide)) <|
    .goesOn (.passedOn (by decide +kernel) rfl hanswered) <|
    .ends (.untaken (by decide +kernel) htold rfl)
  have hplay : peer.play limit console = (.faulted unreadTerminator, told) := by
    simp only [play, hconverses.converse_eq]
  have hfinal : finalState program script Marks.standard (Path.displayName default) =
      (.faulted unreadTerminator, told.emitAll.2.channel) :=
    finalState_ofPeer Marks.standard (Path.displayName default) rfl hplay
  have hmatched : channel.outputsMatched + 1 = script.outputCount := by
    simp only [channel, hfinal]
    decide +kernel
  refine ⟨by decide +kernel, ?_, hmatched, ?_⟩
  · obtain ⟨houtcome, -, -⟩ := logged_fst default program default script ⟨Marks.standard, none⟩
    refine houtcome.trans ?_
    change (judge (finalState program script Marks.standard (Path.displayName default)).1 _).1 = _
    rw [hfinal]
    decide +kernel
  · rintro ⟨pending, hmessage, hleft⟩
    have htold : pending = ⟨0, 0, true⟩ := Pending.message_eq_iff.mp hmessage.symm
    rw [htold] at hleft
    exact absurd (hleft.2.trans hmatched.symm) (by simp)

end Run

end Dialogue
