import Dialogue.Proofs.Peer.Passed
import Dialogue.Proofs.Speaker.Line

/-!
# Conversations in turn

Before a line is read, a console gives out what it holds back. In a conversation that would be out
of turn if the lines of an output that spans several were still being collected. It never comes to
that: lines are held back only while an output is due, and then fewer than it spans, so that nothing
is held back when the turn passes (`Peer.InTurn`). A line that is passed on while an output is due
is held back, or the lines that are held back go out with it as one output, which can be refused
only because it does not match (`InTurn.printLine`); and where an input is due it can be read
(`InTurn.readLine`). So a conversation stays in turn from one step to the next (`InTurn.goesOn`,
`InTurn.leads`), and all that can be recorded on the channel in it is a mismatch
(`converse_in_turn`).
-/

set_option autoImplicit false
set_option relaxedAutoImplicit false

namespace Dialogue

/-- A deviation that says that an output does not match. -/
def Deviation.IsMismatch (deviation : Deviation) : Prop :=
  ∃ expected actual, deviation = .mismatch expected actual

namespace Channel

/-! ### Refusals while an output is due -/

section Write

variable {channel after : Channel} {deviation : Deviation}

/-- A lone line break is never out of turn. -/
theorem isMismatch_of_write_lineBreak (hfailure : channel.failure = none)
    (hwrite : channel.write ['\n'] = (.error deviation, after)) : deviation.IsMismatch := by
  have htransition := transition_write channel ['\n']
  have hbreak : Text.unifyBreaks ['\n'] = ['\n'] := rfl
  rw [hwrite] at htransition
  cases htransition with
  | repeated hrecorded => exact absurd (hfailure.symm.trans hrecorded) (by simp)
  | refused _ hcause =>
    cases hcause with
    | strayNewline => exact ⟨_, _, rfl⟩
    | mismatch _ hvalue | wroteBeforeInput _ hvalue | wroteAfterEnd _ hvalue =>
      exact absurd hbreak hvalue

/-- While an output is due, any output is in turn. -/
theorem isMismatch_of_write {text : Text} (hfailure : channel.failure = none)
    (hturn : channel.turn = .awaitingWrite)
    (hwrite : channel.write text = (.error deviation, after)) : deviation.IsMismatch := by
  have htransition := transition_write channel text
  rw [hwrite] at htransition
  cases htransition with
  | repeated hrecorded => exact absurd (hfailure.symm.trans hrecorded) (by simp)
  | refused _ hcause =>
    cases hcause with
    | strayNewline | mismatch => exact ⟨_, _, rfl⟩
    | wroteBeforeInput _ _ hother => simp [hturn] at hother
    | wroteAfterEnd _ _ hother => exact absurd hturn hother

theorem isMismatch_of_writeLine {line : List UInt8} (hfailure : channel.failure = none)
    (hturn : channel.turn = .awaitingWrite)
    (hwrite : channel.writeLine line = (.error deviation, after)) : deviation.IsMismatch := by
  rw [writeLine] at hwrite
  split_ifs at hwrite
  · exact isMismatch_of_write_lineBreak hfailure hwrite
  · split at hwrite
    · next other between hline =>
      obtain ⟨hother, -⟩ := Prod.mk.inj hwrite
      obtain rfl := Except.error.inj hother
      exact isMismatch_of_write hfailure hturn hline
    · next between hline =>
      have hmakes := channel.makes_write (Text.Utf8.decodeLossy line).trimReturns
      rw [hline] at hmakes
      exact isMismatch_of_write_lineBreak (hmakes.failure_eq_none hfailure) hwrite

/-- Where an input is due, a line is handed out. -/
theorem exists_read_of_awaitingRead (hfailure : channel.failure = none)
    (hturn : channel.turn = .awaitingRead) : ∃ line, channel.read.1 = .ok line := by
  simp only [read, hfailure, hturn]
  split
  · exact ⟨_, rfl⟩
  · exact ⟨_, rfl⟩

end Write

end Channel

namespace Peer

/-! ### Lines that are received -/

section Received

variable {State : Type}

theorem linesReceived_cons (moment : Moment State) (moments : List (Moment State)) :
    linesReceived (moment :: moments) = moment.line?.toList ++ linesReceived moments := by
  unfold linesReceived
  cases hline : moment.line? with
  | none => rw [List.filterMap_cons_none hline, Option.toList_none, List.nil_append]
  | some line => rw [List.filterMap_cons_some hline, Option.toList_some, List.singleton_append]

theorem linesReceived_append (earlier later : List (Moment State)) :
    linesReceived (earlier ++ later) = linesReceived earlier ++ linesReceived later :=
  List.filterMap_append

end Received

/-! ### What is held back -/

/-- Lines are held back only while an output is due, none of them is chatter, and there are fewer of
them than the output spans. -/
structure InTurn (console : Console) : Prop where
  failure : console.channel.failure = none
  marks : console.channel.marks.OneLine
  held : ∃ held, console.pending = Text.Utf8.encode held ∧
    held.count '\n' < console.channel.pendingSpan ∧
      (held ≠ [] → console.channel.turn = .awaitingWrite ∧
        ∀ more, console.channel.marks.isChatter (held ++ more) = false)

namespace InTurn

variable {console : Console}

theorem of_pending_nil (hfailure : console.channel.failure = none)
    (hmarks : console.channel.marks.OneLine) (hpending : console.pending = []) :
    InTurn console :=
  ⟨hfailure, hmarks, [], hpending, console.channel.pendingSpan_pos, by simp⟩

/-- Nothing is held back while an input is due. -/
theorem pending_eq_nil (h : InTurn console) (hturn : console.channel.turn = .awaitingRead) :
    console.pending = [] := by
  obtain ⟨held, hpending, -, hheld⟩ := h.held
  by_cases hempty : held = []
  · rw [hpending, hempty]
    rfl
  · simp [(hheld hempty).1] at hturn

/-- Where an input is due it can be read. -/
theorem readLine (h : InTurn console) (hturn : console.channel.turn = .awaitingRead) :
    ∃ line after, console.readLine = (.ok line, after) ∧ InTurn after := by
  obtain ⟨channel, pending⟩ := console
  obtain rfl : pending = [] := h.pending_eq_nil hturn
  obtain ⟨line, hread⟩ := Channel.exists_read_of_awaitingRead h.failure hturn
  have hmakes := channel.makes_read
  rw [hread] at hmakes
  refine ⟨line, ⟨channel.read.2, []⟩, ?_, ?_⟩
  · rw [Console.readLine_nil, hread]
  · refine of_pending_nil (hmakes.failure_eq_none h.failure) ?_ rfl
    exact hmakes.marks_eq.symm ▸ h.marks

/-- While an output is due, a line is held back or goes out behind those that are held back, and it
is refused only because the output does not match. -/
theorem printLine {text : Text} (h : InTurn console)
    (hturn : console.channel.turn = .awaitingWrite) (hline : '\n' ∉ text) :
    match console.printLine text with
    | (.ok (), after) => InTurn after
    | (.error deviation, _) => deviation.IsMismatch := by
  obtain ⟨channel, pending⟩ := console
  obtain ⟨held, hpending, (hcount : _ < channel.pendingSpan), hheld⟩ := h.held
  obtain rfl : pending = Text.Utf8.encode held := hpending
  have hbytes : Text.Utf8.encode held ++ (Text.Utf8.encode text ++ [newlineByte]) =
      Text.Utf8.encode (held ++ text) ++ [newlineByte] := by
    rw [Text.Utf8.encode_append, List.append_assoc]
  have hlines : (held ++ text).count '\n' = held.count '\n' := by
    rw [List.count_append, List.count_eq_zero_of_not_mem hline, Nat.add_zero]
  change match channel.drain _ with | (.ok (), after) => _ | (.error deviation, _) => _
  rw [hbytes]
  have hmarks : channel.marks.OneLine := h.marks
  have hspan := Channel.spanOf_encode_newline hmarks (held ++ text)
  by_cases hwhole : channel.spanOf (Text.Utf8.encode (held ++ text) ++ [newlineByte]) =
      (held ++ text).count '\n' + 1
  · -- The output is complete, and goes out.
    rw [Channel.drain_whole hwhole]
    have hmakes := channel.makes_writeLine (Text.Utf8.encode (held ++ text))
    rcases hwrite : channel.writeLine (Text.Utf8.encode (held ++ text)) with
      ⟨deviation | _, after⟩
    · exact Channel.isMismatch_of_writeLine h.failure hturn hwrite
    · rw [hwrite] at hmakes
      exact of_pending_nil (hmakes.failure_eq_none h.failure) (hmakes.marks_eq.symm ▸ hmarks) rfl
  · -- More lines are to come.
    have hchatter : channel.marks.isChatter (held ++ text) = false := by
      by_contra hchatter
      obtain rfl | hne := eq_or_ne held []
      · refine hwhole ?_
        rw [hspan, if_pos (by simpa using hchatter), hlines, List.count_nil]
      · exact hchatter ((hheld hne).2 text)
    have hshort : (held ++ text).count '\n' + 1 < channel.pendingSpan := by
      rw [hspan, hchatter, if_neg (by simp)] at hwhole
      omega
    have hencode : Text.Utf8.encode (held ++ text) ++ [newlineByte] =
        Text.Utf8.encode (held ++ text ++ ['\n']) :=
      (Text.Utf8.encode_append (held ++ text) ['\n']).symm
    rw [Channel.drain_held hmarks hchatter hshort]
    refine ⟨h.failure, hmarks, _, hencode, ?_, fun _ ↦ ⟨hturn, fun more ↦ ?_⟩⟩
    · rwa [List.count_append, List.count_singleton_self]
    · rw [List.append_assoc (held ++ text)]
      exact (Marks.isChatter_append_newline hmarks (held ++ text) more).trans hchatter

/-! ### Whole conversations -/

section Conversation

variable {peer : Peer} {limit : Duration} {state next : peer.State}
  {moments : List (Moment peer.State)}

/-- Whatever is said or sent, a conversation stays in turn. -/
theorem goesOn {after : Console} {moment : Moment peer.State} (h : InTurn console)
    (hstep : peer.GoesOn console state moment after next)
    (hline : ∀ text ∈ moment.line?, '\n' ∉ text) : InTurn after := by
  cases hstep with
  | sent hturn hread =>
    obtain ⟨line, between, hother, hbetween⟩ := h.readLine hturn
    obtain ⟨-, rfl⟩ := Prod.mk.inj (hother.symm.trans hread)
    exact hbetween
  | passedOn hturn hreceive hprint =>
    have hafter := h.printLine hturn (hline _ rfl)
    rwa [hprint] at hafter

theorem leads {after : Console} (h : InTurn console)
    (hleads : peer.Leads console state moments after next)
    (hlines : ∀ line ∈ linesReceived moments, '\n' ∉ line) : InTurn after := by
  induction hleads with
  | here => exact h
  | goesOn hstep _ ih =>
    simp only [linesReceived_cons, List.forall_mem_append, Option.mem_toList] at hlines
    exact ih (h.goesOn hstep hlines.1) hlines.2

/-- What is recorded when a conversation ends says that an output does not match. -/
theorem isMismatch_of_ends {result : Option Fault × Console × peer.State} {deviation : Deviation}
    (h : InTurn console) (hends : peer.Ends limit console state moments result)
    (hlines : ∀ line ∈ linesReceived moments, '\n' ∉ line)
    (hfailure : result.2.1.channel.failure = some deviation) : deviation.IsMismatch := by
  cases hends with
  | drained | unreadable | silence | closed => simp [h.failure] at hfailure
  | refusedRead hturn hread =>
    obtain ⟨line, between, hother, -⟩ := h.readLine hturn
    simp [hother] at hread
  | unsendable hturn hread | untaken hturn hread =>
    obtain ⟨line, between, hother, hbetween⟩ := h.readLine hturn
    obtain ⟨-, rfl⟩ := Prod.mk.inj (hother.symm.trans hread)
    simp [hbetween.failure] at hfailure
  | refusedLine hturn hreceive hprint =>
    have hmismatch := h.printLine hturn (hlines _ List.mem_cons_self)
    have hrecorded := Channel.failure_of_drain hprint
    obtain rfl := Option.some.inj (hrecorded.symm.trans hfailure)
    rwa [hprint] at hmismatch

end Conversation

end InTurn

end Peer

namespace Run

open Peer

theorem inTurn_openChannel (script : Script) {marks : Marks} (hmarks : marks.OneLine)
    (name : Text) : InTurn (Console.opened (openChannel script marks name)) :=
  .of_pending_nil rfl hmarks rfl

/-- A conversation never steps out of turn, whatever the process does: the lines that are received
from it only have to be lines. The conversation goes on step by step up to its end, and wherever it
stands in between, a line that is due can be read and nothing is held back that would have to go out
before. If something is recorded on the channel at the end, it is that an output does not match. -/
theorem converse_in_turn (peer : Peer) (limit : Duration) (script : Script) {marks : Marks}
    (hmarks : marks.OneLine) (name : Text)
    (hlines : ∀ line ∈ linesReceived
      (peer.moments limit (Console.opened (openChannel script marks name))), '\n' ∉ line) :
    let console := Console.opened (openChannel script marks name)
    let result := peer.converse limit console peer.initial
    (∃ earlier last state left, peer.Leads console peer.initial earlier last state ∧
        peer.Ends limit last state left result) ∧
      (∀ earlier between state, peer.Leads console peer.initial earlier between state →
        between.channel.turn = .awaitingRead →
          between.pending = [] ∧ ∃ line after, between.readLine = (.ok line, after)) ∧
      ∀ deviation, result.2.1.channel.failure = some deviation →
        ∃ expected actual, deviation = .mismatch expected actual := by
  intro console result
  have hopened : InTurn console := inTurn_openChannel script hmarks name
  obtain ⟨earlier, last, lastState, left, hmoments, hleads, hends⟩ :=
    (converses_iff.mpr ⟨rfl, rfl⟩ : peer.Converses limit console peer.initial _ result).exists_leads
  refine ⟨⟨earlier, last, lastState, left, hleads, hends⟩, ?_, ?_⟩
  · intro earlier between state hleads hturn
    -- What has passed so far is the beginning of all that passes.
    obtain ⟨later, hlater⟩ := exists_converses peer limit between state
    obtain ⟨-, hall⟩ := converses_iff.mp (hleads.converses hlater)
    rw [hall, linesReceived_append] at hlines
    have hinTurn := hopened.leads hleads (List.forall_mem_append.mp hlines).1
    obtain ⟨line, after, hread, -⟩ := hinTurn.readLine hturn
    exact ⟨hinTurn.pending_eq_nil hturn, line, after, hread⟩
  · intro deviation hfailure
    rw [hmoments, linesReceived_append] at hlines
    obtain ⟨hearlier, hleft⟩ := List.forall_mem_append.mp hlines
    exact (hopened.leads hleads hearlier).isMismatch_of_ends hends hleft hfailure

/-- A remark, and an output of two lines that is collected before the next line is read. -/
theorem converse_in_turn_two_lines :
    let script : Script :=
      ⟨none, [.input "x".toList, .expect "one\ntwo".toList .exact], List.cons_ne_nil _ _⟩
    let peer := reciting ["Test: up".toList, "one".toList, "two".toList] []
    let console := Console.opened (openChannel script Marks.standard [])
    Marks.standard.OneLine ∧
      (∀ line ∈ linesReceived (peer.moments default console), '\n' ∉ line) ∧
      ∃ earlier between state, peer.Leads console peer.initial earlier between state ∧
        linesReceived earlier = ["Test: up".toList, "one".toList, "two".toList] ∧
        between.channel.turn = .awaitingRead ∧ between.pending = [] := by
  intro script peer console
  let asked := console.readLine.2
  let remarked := (asked.printLine "Test: up".toList).2
  let begun := (remarked.printLine "one".toList).2
  let answered := (begun.printLine "two".toList).2
  let done := answered.readLine.2
  have hasked : console.readLine = (.ok "x".toList, asked) := Prod.ext (by decide +kernel) rfl
  have hremarked : asked.printLine "Test: up".toList = (.ok (), remarked) :=
    Prod.ext (by decide +kernel) rfl
  have hbegun : remarked.printLine "one".toList = (.ok (), begun) :=
    Prod.ext (by decide +kernel) rfl
  have hanswered : begun.printLine "two".toList = (.ok (), answered) :=
    Prod.ext (by decide +kernel) rfl
  have hdone : answered.readLine = (.ok terminator, done) := Prod.ext (by decide +kernel) rfl
  have hleads : peer.Leads console peer.initial _ answered [] :=
    .goesOn (.sent (by decide +kernel) hasked rfl (by decide)) <|
    .goesOn (.passedOn (by decide +kernel) rfl hremarked) <|
    .goesOn (.passedOn (by decide +kernel) rfl hbegun) <|
    .goesOn (.passedOn (by decide +kernel) rfl hanswered) .here
  have hlater : peer.Converses default answered [] _ (none, done, []) :=
    .goesOn (.sent (by decide +kernel) hdone rfl fun _ ↦ rfl) <|
    .ends (.drained (by decide +kernel))
  have hmarks : Marks.standard.OneLine := by decide
  have hlines : ∀ line ∈ linesReceived (peer.moments default console), '\n' ∉ line := by
    rw [(converses_iff.mp (hleads.converses hlater)).2]
    decide
  have hturn : answered.channel.turn = .awaitingRead := by decide +kernel
  obtain ⟨-, hread, -⟩ := converse_in_turn peer default script hmarks [] hlines
  exact ⟨hmarks, hlines, _, answered, [], hleads, rfl, hturn, (hread _ _ _ hleads hturn).1⟩

end Run

end Dialogue
