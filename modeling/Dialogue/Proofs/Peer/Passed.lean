import Dialogue.Proofs.Console.Transcript
import Dialogue.Proofs.Peer.Conversation
import Dialogue.Proofs.Run.HandedOut

/-!
# Processes that pass

A process does not pass by accident. In a conversation without a fault, the lines that are sent are
those that the channel has handed out (`Channel.handedOut`), and the lines that are received have
gone to the transcript, but for those that the console still holds back. `Peer.Followed` is this
invariant; it holds at the start, each step of a conversation keeps it (`Followed.goesOn`), and so
does a whole conversation (`Followed.converses`). The lines that are left over at the end are passed
on in the same way (`relays_passOn`). When nothing was refused and the script is done with, all of
its inputs and the terminator have been sent, the process has taken the terminator, and nothing that
it said is missing (`passed_of_process`).
-/

set_option autoImplicit false
set_option relaxedAutoImplicit false

namespace Dialogue

namespace Peer

/-- Where a conversation without a fault stands: the lines that were sent are those handed out, the
terminator was taken, and the lines that were received have gone to the transcript or are held back.
-/
structure Followed {State : Type} (script : Script) (marks : Marks) (origin : Channel)
    (console : Console) (moments : List (Moment State)) : Prop where
  inStep : console.channel.InStep script marks
  failure : console.channel.failure = none
  sent : (moments.filterMap Moment.sending?).map Prod.fst = console.channel.handedOut
  taken : console.channel.terminatorSent = true →
    (moments.filterMap Moment.sending?).getLast? = some (terminator, true)
  relayed : ∃ held, console.pending = Text.Utf8.encode held ∧
    origin.Relays ((moments.filterMap Moment.line?).flatMap (· ++ ['\n'])) held console.channel

namespace Followed

section Steps

variable {State : Type} {script : Script} {marks : Marks} {origin : Channel} {console : Console}
  {moments : List (Moment State)}

/-- Nothing has passed yet. -/
theorem start {channel : Channel} (hinStep : channel.InStep script marks)
    (hfailure : channel.failure = none) (hsent : channel.terminatorSent = false)
    (hlines : channel.handedOut = []) :
    Followed script marks channel (Console.opened channel) ([] : List (Moment State)) :=
  ⟨hinStep, hfailure, hlines.symm, fun hafter ↦ absurd (hsent.symm.trans hafter) (by simp),
    [], rfl, .refl channel []⟩

/-- Before the script is done with, the terminator has not been handed out. -/
theorem stands (h : Followed script marks origin console moments)
    (hturn : console.channel.turn ≠ .drained) :
    console.channel.Stands script marks console.channel.handedOut false :=
  ⟨h.inStep, rfl, Bool.eq_false_iff.mpr fun hsent ↦
    hturn (h.inStep.turn_eq_drained_iff.mpr hsent)⟩

/-- A line is sent. -/
theorem sendLine {line : Text} {taken : Bool} {after : Console} {state : State}
    (h : Followed script marks origin console moments)
    (hturn : console.channel.turn = .awaitingRead) (hread : console.readLine = (.ok line, after))
    (htaken : line = terminator → taken = true) :
    Followed script marks origin after (moments ++ [⟨state, .sent line taken⟩]) := by
  have hstands := h.stands (by simp [hturn])
  obtain ⟨hinStep, hlines, hterminator⟩ := Console.stands_readLine hstands hread
  obtain ⟨held, hpending, hrelays⟩ := h.relayed
  obtain ⟨nothing, hall, hnothing⟩ := Console.relays_readLine hpending hread
  obtain ⟨rfl, hempty⟩ := hnothing line rfl
  refine ⟨hinStep, Console.failure_readLine h.failure hread, ?_, fun hsent ↦ ?_, [], hempty, ?_⟩
  · rw [List.filterMap_append, List.map_append, h.sent, hlines]
    rfl
  · obtain rfl := hterminator hsent
    obtain rfl := htaken rfl
    rw [List.filterMap_append]
    exact List.getLast?_concat
  · rw [List.filterMap_append]
    exact (List.append_nil (moments.filterMap Moment.line?)).symm ▸ hrelays.trans hall

/-- A line is passed on. -/
theorem passLine {text : Text} {after : Console} {state : State}
    (h : Followed script marks origin console moments)
    (hturn : console.channel.turn = .awaitingWrite)
    (hprint : console.printLine text = (.ok (), after)) :
    Followed script marks origin after (moments ++ [⟨state, .received (.line text)⟩]) := by
  have hstands := h.stands (by simp [hturn])
  have hafter := Console.keeps_printLine Console.keptByWrites_stands hstands text
  rw [hprint] at hafter
  obtain ⟨hinStep, hlines, hsent⟩ := hafter
  obtain ⟨held, hpending, hrelays⟩ := h.relayed
  obtain ⟨rest, hall, hrest⟩ := Console.relays_printLine hpending hprint
  refine ⟨hinStep, Console.failure_printLine h.failure hprint, ?_, fun hafter ↦ ?_, rest, hrest rfl,
    ?_⟩
  · rw [List.filterMap_append, hlines, ← h.sent]
    exact congrArg _ (List.append_nil _)
  · exact absurd (hsent.symm.trans hafter) (by simp)
  · rw [List.filterMap_append, List.flatMap_append]
    have hline : ([⟨state, .received (.line text)⟩] : List (Moment State)).filterMap Moment.line? =
        [text] := rfl
    rw [hline, List.flatMap_singleton]
    exact (hrelays.append _).trans hall

/-- What is no line passes without a trace. -/
theorem passNothing {what : Received} {state : State}
    (h : Followed script marks origin console moments) (hwhat : ∀ text, what ≠ .line text) :
    Followed script marks origin console (moments ++ [⟨state, .received what⟩]) := by
  have hline : Moment.line? ⟨state, .received what⟩ = none := by
    cases what with
    | line text => exact absurd rfl (hwhat text)
    | unreadable | silence | closed => rfl
  refine ⟨h.inStep, h.failure, ?_, fun hsent ↦ ?_, ?_⟩
  · rw [List.filterMap_append, ← h.sent]
    exact congrArg _ (List.append_nil _)
  · rw [List.filterMap_append]
    exact (congrArg List.getLast? (List.append_nil _)).trans (h.taken hsent)
  · rw [List.filterMap_append, List.filterMap_cons_none hline]
    exact (List.append_nil (moments.filterMap Moment.line?)).symm ▸ h.relayed

end Steps

variable {peer : Peer} {limit : Duration} {script : Script} {marks : Marks} {origin : Channel}
  {earlier : List (Moment peer.State)}

/-- Both ways in which a conversation goes on keep what it has been followed to. -/
theorem goesOn {console after : Console} {state next : peer.State} {moment : Moment peer.State}
    (h : Followed script marks origin console earlier)
    (hstep : peer.GoesOn console state moment after next) :
    Followed script marks origin after (earlier ++ [moment]) := by
  cases hstep with
  | sent hturn hread _ htaken => exact h.sendLine hturn hread htaken
  | passedOn hturn _ hprint => exact h.passLine hturn hprint

/-- A conversation without a fault can be followed to its end. -/
theorem converses {console : Console} {state : peer.State} {moments : List (Moment peer.State)}
    {result : Option Fault × Console × peer.State}
    (h : Followed script marks origin console earlier)
    (hconverses : peer.Converses limit console state moments result) (hnone : result.1 = none) :
    Followed script marks origin result.2.1 (earlier ++ moments) := by
  induction hconverses generalizing earlier with
  | ends hends =>
    cases hends with
    | drained hturn => rwa [List.append_nil]
    | closed hturn hreceive => exact h.passNothing (by simp)
    | refusedRead | unsendable | untaken | refusedLine | unreadable | silence => contradiction
  | goesOn hstep _ ih =>
    have hrest := ih (h.goesOn hstep) hnone
    rwa [List.append_assoc, List.singleton_append] at hrest

end Followed

/-! ### What is left over -/

theorem keeps_passOn {Kept : Channel → Prop} (hkept : Channel.KeptByWrites Kept)
    {console : Console} (h : Kept console.channel) (rest : List (Option Text)) :
    Kept (passOn console rest).2.channel := by
  fun_induction passOn console rest with
  | case1 | case2 => exact h
  | case3 console text rest deviation after hprint =>
    have hline := Console.keeps_printLine hkept h text
    rwa [hprint] at hline
  | case4 console text rest after hprint ih =>
    have hline := Console.keeps_printLine hkept h text
    rw [hprint] at hline
    exact ih hline

/-- Lines that are left over are relayed behind what is held back. -/
theorem relays_passOn {console last : Console} {rest : List (Option Text)} {held : Text}
    (hpending : console.pending = Text.Utf8.encode held)
    (h : passOn console rest = (none, last)) :
    ∃ (lines : List Text) (left : Text), rest = lines.map some ∧
      last.pending = Text.Utf8.encode left ∧
        console.channel.Relays (held ++ lines.flatMap (· ++ ['\n'])) left last.channel := by
  induction rest generalizing console held with
  | nil =>
    obtain ⟨-, rfl⟩ := Prod.mk.inj h
    exact ⟨[], held, rfl, hpending, (List.append_nil held).symm ▸ .refl _ held⟩
  | cons line rest ih =>
    cases line with
    | none => exact absurd (congrArg Prod.fst h) (by simp [passOn])
    | some text =>
      rw [passOn] at h
      rcases hprint : console.printLine text with ⟨deviation | _, after⟩
      · rw [hprint] at h
        exact absurd (congrArg Prod.fst h) (by simp)
      · rw [hprint] at h
        obtain ⟨between, hline, hbetween⟩ := Console.relays_printLine hpending hprint
        obtain ⟨lines, left, rfl, hleft, hlines⟩ := ih (hbetween rfl) h
        refine ⟨text :: lines, left, rfl, hleft, ?_⟩
        rw [List.flatMap_cons, ← List.append_assoc]
        exact (hline.append _).trans hlines

/-- How a process can end: with a fault of the conversation, on a clock that cannot wait for its
exit, without an exit in time, with a fault in what is left over, or well. -/
inductive Plays (peer : Peer) (limit : Duration) (console : Console) : Ending × Console → Prop
  | faulted {fault : Fault} {after : Console} {state : peer.State}
    (hconverse : peer.converse limit console peer.initial = (some fault, after, state)) :
    Plays peer limit console (.faulted fault, after)
  | overflow {after : Console} {state : peer.State}
    (hconverse : peer.converse limit console peer.initial = (none, after, state)) :
    Plays peer limit console
      (.panicked (some "overflow when adding duration to instant".toList), after)
  | lingering {after : Console} {state : peer.State}
    (hconverse : peer.converse limit console peer.initial = (none, after, state)) :
    Plays peer limit console (.faulted (.lingering limit), after)
  | refused {fault : Fault} {after last : Console} {state : peer.State}
    (hconverse : peer.converse limit console peer.initial = (none, after, state))
    (hpass : passOn after (peer.close state).2 = (some fault, last)) :
    Plays peer limit console (.faulted fault, last)
  | returned {after last : Console} {state : peer.State}
    (hconverse : peer.converse limit console peer.initial = (none, after, state))
    (hlimit : limit.nanoseconds < clockLimit * 1000000000) (hexited : (peer.close state).1 = true)
    (hpass : passOn after (peer.close state).2 = (none, last)) :
    Plays peer limit console (.returned, last)

theorem plays_play (peer : Peer) (limit : Duration) (console : Console) :
    peer.Plays limit console (peer.play limit console) := by
  unfold play
  rcases hconverse : peer.converse limit console peer.initial with ⟨_ | fault, after, state⟩
  · dsimp only
    split_ifs with hlimit
    · exact .overflow hconverse
    · rcases hclose : peer.close state with ⟨_ | _, rest⟩
      · exact .lingering hconverse
      · dsimp only
        obtain rfl : (peer.close state).2 = rest := by rw [hclose]
        rcases hpass : passOn after (peer.close state).2 with ⟨_ | fault, last⟩
        · exact .returned hconverse (Nat.lt_of_not_le hlimit) (by rw [hclose]) hpass
        · exact .refused hconverse hpass
  · exact .faulted hconverse

/-- A process is content if the conversation with it has no fault, the clock can wait for its exit,
it exits in time, and all that is left over is passed on. -/
theorem play_eq_returned_iff {peer : Peer} {limit : Duration} {console last : Console} :
    peer.play limit console = (.returned, last) ↔
      limit.nanoseconds < clockLimit * 1000000000 ∧
        ∃ after state, peer.converse limit console peer.initial = (none, after, state) ∧
          (peer.close state).1 = true ∧ passOn after (peer.close state).2 = (none, last) := by
  constructor
  · intro h
    have hplays := plays_play peer limit console
    rw [h] at hplays
    cases hplays with
    | returned hconverse hlimit hexited hpass =>
      exact ⟨hlimit, _, _, hconverse, hexited, hpass⟩
  · rintro ⟨hlimit, after, state, hconverse, hexited, hpass⟩
    rcases hclose : peer.close state with ⟨exited, rest⟩
    rw [hclose] at hexited hpass
    obtain rfl : exited = true := hexited
    simp only [play, hconverse, if_neg (Nat.not_le_of_lt hlimit), hclose, hpass]

/-! ### What the process has taken -/

/-- The lines that the process has taken. -/
def linesTaken {State : Type} (moments : List (Moment State)) : List Text :=
  ((moments.filterMap Moment.sending?).filter Prod.snd).map Prod.fst

/-- The lines that have been received from the process. -/
def linesReceived {State : Type} (moments : List (Moment State)) : List Text :=
  moments.filterMap Moment.line?

/-- A process that has not taken a line takes no later one. -/
def NeverListensAgain {State : Type} (moments : List (Moment State)) : Prop :=
  (moments.filterMap Moment.sending?).Pairwise fun earlier later ↦
    earlier.2 = false → later.2 = false

/-- If the last line was taken, all of them were. -/
theorem linesTaken_eq {State : Type} {moments : List (Moment State)} {last : Text}
    (hnever : NeverListensAgain moments)
    (hlast : (moments.filterMap Moment.sending?).getLast? = some (last, true)) :
    linesTaken moments = (moments.filterMap Moment.sending?).map Prod.fst := by
  obtain ⟨earlier, hsendings⟩ := List.getLast?_eq_some_iff.mp hlast
  rw [NeverListensAgain, hsendings, List.pairwise_append] at hnever
  rw [linesTaken, List.filter_eq_self.mpr]
  intro sending hmem
  rw [hsendings, List.mem_append, List.mem_singleton] at hmem
  rcases hmem with hearlier | rfl
  · by_contra huntaken
    have hlater := hnever.2.2 sending hearlier (last, true) List.mem_cons_self
    exact absurd (hlater (by simpa using huntaken)) (by simp)
  · rfl

/-- When a conversation has been followed to its end, what is left over has been passed on and gone
out, nothing was refused and the script is done with, then the process has taken everything, and
nothing that it said is missing. -/
theorem Followed.finish {State : Type} {script : Script} {marks : Marks} {origin : Channel}
    {console last : Console} {moments : List (Moment State)} {rest : List (Option Text)}
    (h : Followed script marks origin console moments) (hpass : passOn console rest = (none, last))
    (hfailure : last.emitAll.2.channel.failure = none)
    (hturn : last.emitAll.2.channel.turn = .drained) :
    (NeverListensAgain moments → linesTaken moments = script.inputs ++ [terminator]) ∧
      ∃ lines : List Text, rest = lines.map some ∧
        origin.Relays ((linesReceived moments ++ lines).flatMap (· ++ ['\n'])) []
          last.emitAll.2.channel := by
  have hstands : console.channel.Stands script marks console.channel.handedOut
      console.channel.terminatorSent := ⟨h.inStep, rfl, rfl⟩
  have hpassed := keeps_passOn Console.keptByWrites_stands hstands rest
  rw [hpass] at hpassed
  obtain ⟨hinStep, hlines, hsent⟩ := Console.keeps_emitAll Console.keptByWrites_stands hpassed
  refine ⟨fun hnever ↦ ?_, ?_⟩
  · have hdone := hinStep.turn_eq_drained_iff.mp hturn
    rw [linesTaken_eq hnever (h.taken (hsent.symm.trans hdone)), h.sent, ← hlines]
    exact Channel.handedOut_of_drained hinStep hturn
  · obtain ⟨held, hpending, hreceived⟩ := h.relayed
    obtain ⟨lines, left, hrest, hleft, hrelays⟩ := relays_passOn hpending hpass
    refine ⟨lines, hrest, ?_⟩
    rcases hemit : last.emitAll with ⟨deviation | _, final⟩
    · -- A refusal would have been recorded.
      have hmakes := last.makes_emitAll
      rw [hemit] at hmakes hfailure
      exact absurd (hmakes.failure_eq.symm.trans hfailure) (by simp)
    · obtain ⟨nothing, hall, hnothing⟩ := Console.relays_emitAll hleft hemit
      rw [(hnothing rfl).1] at hall
      rw [linesReceived, List.flatMap_append]
      exact ((hreceived.append _).trans hrelays).trans hall

/-- A conversation without a fault can be followed from its start. -/
theorem followed_converse {peer : Peer} {limit : Duration} {script : Script} {marks : Marks}
    {console after : Console} {state : peer.State}
    (hopened : Followed script marks console.channel console ([] : List (Moment peer.State)))
    (hconverse : peer.converse limit console peer.initial = (none, after, state)) :
    Followed script marks console.channel after (peer.moments limit console) := by
  have hconverses := converses_iff.mpr ⟨hconverse, rfl⟩
  exact Followed.converses hopened hconverses rfl

/-- A process that says lines one after the other, whatever it is sent, and some more at its end. -/
def reciting (lines closing : List Text) : Peer where
  State := List Text
  initial := lines
  send _ said := (true, said)
  receive
    | line :: said => (.line line, said)
    | [] => (.silence, [])
  close said := (true, (said ++ closing).map some)
  ahead := List.length
  ahead_receive_lt := by
    rintro (_ | ⟨line, said⟩) after text h
    · simp at h
    · simp only [Prod.mk.injEq] at h
      simp [h.2]

end Peer

namespace Run

open Peer

/-- At the start of a run nothing has passed yet. -/
theorem followed_openChannel {State : Type} (script : Script) (marks : Marks) (name : Text) :
    Followed script marks (openChannel script marks name)
      (Console.opened (openChannel script marks name)) ([] : List (Moment State)) :=
  .start ((Channel.inStep_start script marks).serve (.note (openingLine marks name))) rfl rfl rfl

/-- A process does not pass by accident, whatever it does. If a run of it passes, it was started, it
has taken the inputs of the script in their order and the terminator behind them, provided that it
never listens again when it has not taken a line; it has exited in time; and every line that it said
stands in the transcript behind the opening line, in order, each with a line break, but for carriage
returns. -/
theorem passed_of_process (host : Host) (name : Text) (limit : Duration)
    (start : List Text → Except Fault Peer) (path : Path) (script : Script) (options : Options)
    (hpassed :
      (logged host (Program.ofPeer name limit start) path script options).1.outcome = .passed) :
    let console := Console.opened (openChannel script options.marks path.displayName)
    ∃ peer, start script.argumentList = .ok peer ∧
      let moments := peer.moments limit console
      let state := (peer.converse limit console peer.initial).2.2
      (NeverListensAgain moments → linesTaken moments = script.inputs ++ [terminator]) ∧
      (peer.close state).1 = true ∧
      ∃ rest shown, (peer.close state).2 = rest.map some ∧
        (logged host (Program.ofPeer name limit start) path script options).1.transcript =
          openingLine options.marks path.displayName ++
            '\n' :: shown.flatMap (· ++ ['\n']) ∧
        List.Forall₂ (fun line text ↦ '\r' ∉ line → text = line)
          (linesReceived moments ++ rest) shown := by
  intro console
  obtain ⟨hended, hfailure, hturn, htranscript⟩ := logged_of_passed hpassed
  cases hstart : start script.argumentList with
  | error fault =>
    simp only [finalState, Program.ofPeer, hstart] at hended
    contradiction
  | ok peer =>
    refine ⟨peer, rfl, ?_⟩
    rcases hplay : peer.play limit console with ⟨ending, last⟩
    have hfinal : finalState (Program.ofPeer name limit start) script options.marks
        path.displayName = (ending, last.emitAll.2.channel) := by
      simp only [finalState, Program.ofPeer, hstart]
      change ((peer.play limit console).1, (peer.play limit console).2.emitAll.2.channel) = _
      rw [hplay]
    rw [hfinal] at hended hfailure hturn htranscript
    subst hended
    obtain ⟨-, after, state, hconverse, hclose, hpass⟩ := play_eq_returned_iff.mp hplay
    have hfollowed := followed_converse (followed_openChannel script options.marks _) hconverse
    obtain ⟨htaken, rest, hrest, hrelays⟩ := hfollowed.finish hpass hfailure hturn
    obtain ⟨gone, shown, hgone, hshed, hshown⟩ := hrelays
    rw [List.append_nil] at hgone
    subst hgone
    obtain ⟨texts, rfl, htexts⟩ := hshed.exists_of_lines
    refine ⟨htaken, by rw [hconverse]; exact hclose, rest, texts, by rw [hconverse]; exact hrest,
      ?_, htexts⟩
    rw [htranscript]
    exact hshown.trans (List.append_assoc (openingLine options.marks path.displayName) ['\n'] _)

/-- A process that makes a remark before it answers the input, and another one at its end. -/
theorem passed_of_process_remarks :
    let script : Script :=
      ⟨none, [.input "hello".toList, .expect "there".toList .exact], List.cons_ne_nil _ _⟩
    let peer := reciting ["Test: up".toList, "there".toList] ["Test: bye".toList]
    let limit := Duration.ofSeconds 5
    let program := Program.ofPeer [] limit fun _ ↦ .ok peer
    let console := Console.opened (openChannel script Marks.standard (Path.displayName default))
    let report := (logged default program default script ⟨Marks.standard, none⟩).1
    report.outcome = .passed ∧ NeverListensAgain (peer.moments limit console) ∧
      linesTaken (peer.moments limit console) = ["hello".toList, "quit".toList] := by
  intro script peer limit program console report
  let asked := console.readLine.2
  let remarked := (asked.printLine "Test: up".toList).2
  let answered := (remarked.printLine "there".toList).2
  let done := answered.readLine.2
  let ended := (done.printLine "Test: bye".toList).2
  have hasked : console.readLine = (.ok "hello".toList, asked) := Prod.ext (by decide +kernel) rfl
  have hremarked : asked.printLine "Test: up".toList = (.ok (), remarked) :=
    Prod.ext (by decide +kernel) rfl
  have hanswered : remarked.printLine "there".toList = (.ok (), answered) :=
    Prod.ext (by decide +kernel) rfl
  have hdone : answered.readLine = (.ok terminator, done) := Prod.ext (by decide +kernel) rfl
  have hconverses : peer.Converses limit console peer.initial _ (none, done, []) :=
    .goesOn (.sent (by decide +kernel) hasked rfl (by decide)) <|
    .goesOn (.passedOn (by decide +kernel) rfl hremarked) <|
    .goesOn (.passedOn (by decide +kernel) rfl hanswered) <|
    .goesOn (.sent (by decide +kernel) hdone rfl fun _ ↦ rfl) <|
    .ends (.drained (by decide +kernel))
  obtain ⟨hconverse, hmoments⟩ := converses_iff.mp hconverses
  have hended : done.printLine "Test: bye".toList = (.ok (), ended) :=
    Prod.ext (by decide +kernel) rfl
  have hplay : peer.play limit console = (.returned, ended) := by
    refine play_eq_returned_iff.mpr ⟨by decide +kernel, done, [], hconverse, rfl, ?_⟩
    change passOn done [some "Test: bye".toList] = (none, ended)
    rw [passOn, hended]
    rfl
  have hpassed : report.outcome = .passed := by
    obtain ⟨houtcome, -, -⟩ := logged_fst default program default script ⟨Marks.standard, none⟩
    refine houtcome.trans ?_
    change (judge (peer.play limit console).1 (peer.play limit console).2.emitAll.2.channel).1 = _
    rw [hplay]
    decide +kernel
  have hnever : NeverListensAgain (peer.moments limit console) := by
    rw [hmoments]
    exact .cons (by simp) (.cons (by simp) .nil)
  obtain ⟨other, hother, htaken, -⟩ :=
    passed_of_process default [] limit (fun _ ↦ .ok peer) default script ⟨Marks.standard, none⟩
      hpassed
  obtain rfl := Except.ok.inj hother
  exact ⟨hpassed, hnever, htaken hnever⟩

end Run

end Dialogue
