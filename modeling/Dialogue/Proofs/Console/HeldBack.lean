import Dialogue.Proofs.Console.Buffering

/-!
# What a console holds back

A console gives out lines as long as it holds back enough of them, and it looks at its channel again
behind each of them. When it stops without a refusal, what is left is therefore short of the output
that is due then, however the lines before it have moved the channel (`short_of_drain`). Every
action that does not write leaves nothing behind, or leaves the console as it is. So a console never
holds back what is complete (`Console.Unfinished`): an action keeps it that way
(`Unfinished.perform`), and so does any number of them (`Unfinished.performAll`).

`held_back_unfinished` says what this means for the bytes. Finished lines are held back for an
output of several lines only, and there are fewer of them than it has. Nothing is asked of the marks
for it, because the console decides anew what is chatter whenever it looks at its bytes.
-/

set_option autoImplicit false
set_option relaxedAutoImplicit false

namespace Dialogue

/-- Bytes that begin with those of a mark are chatter, whatever stands behind them. -/
theorem Marks.isChatter_decodeLossy {marks : Marks} {mark : Text} {bytes : List UInt8}
    (hmark : mark ∈ [marks.error, marks.info]) (hne : mark ≠ [])
    (hstart : Text.Utf8.encode mark <+: bytes) :
    marks.isChatter (Text.Utf8.decodeLossy bytes) = true := by
  obtain ⟨rest, rfl⟩ := hstart
  rw [Text.Utf8.decodeLossy_encode_append, isChatter_iff]
  exact ⟨mark, hmark, hne, List.prefix_append mark _⟩

namespace Channel

/-- No more than one line is awaited, unless an output of several lines is due. -/
theorem pendingSpan_eq_one {channel : Channel}
    (h : ∀ pattern mode, channel.dueOutput? = some (pattern, mode) →
      mode = .errorSentinel ∨ '\n' ∉ pattern) : channel.pendingSpan = 1 := by
  unfold pendingSpan
  split
  · rfl
  · next pattern mode hmode hdue =>
    have hnewline : '\n' ∉ pattern := (h pattern mode hdue).resolve_left hmode
    rw [List.count_eq_zero_of_not_mem hnewline]
  · rfl

theorem spanOf_le (channel : Channel) (bytes : List UInt8) :
    channel.spanOf bytes ≤ channel.pendingSpan := by
  unfold spanOf
  split_ifs
  · exact channel.pendingSpan_pos
  · exact Nat.le_refl _

/-- What is left is short of the output that is due behind the lines that have been taken. -/
theorem short_of_drain {channel : Channel} {bytes : List UInt8} {after : Console}
    (h : channel.drain bytes = (.ok (), after)) :
    after.pending.count newlineByte < after.channel.spanOf after.pending := by
  fun_induction channel.drain bytes with
  | case1 channel bytes hcut =>
    obtain ⟨-, rfl⟩ := Prod.mk.inj h
    exact count_lt_of_cutLines_eq_none (channel.spanOf_pos bytes) hcut
  | case2 => exact absurd (congrArg Prod.fst h) (by simp)
  | case3 channel bytes line rest hcut between hwrite ih => exact ih h

end Channel

namespace Console

/-- What is held back is short of the output that is due, unless something has been refused. -/
def Unfinished (console : Console) : Prop :=
  console.channel.failure = none →
    console.pending.count newlineByte < console.channel.spanOf console.pending

/-- The console behind some actions. -/
def performAll (console : Console) : List Action → Console
  | [] => console
  | action :: rest => (console.perform action).2.performAll rest

/-- Behind a write nothing is held back that is complete. -/
theorem unfinished_offer (console : Console) (bytes : List UInt8) :
    (console.offer bytes).2.Unfinished := by
  intro hfailure
  rcases hoffer : console.offer bytes with ⟨deviation | _, after⟩
  · have hrefused : after.channel.failure = some deviation := Channel.failure_of_drain hoffer
    rw [hoffer] at hfailure
    exact absurd (hrefused.symm.trans hfailure) (by simp)
  · exact Channel.short_of_drain hoffer

namespace Unfinished

variable {console : Console}

theorem of_pending (h : console.pending = []) : console.Unfinished := by
  intro _
  rw [h, List.count_nil]
  exact console.channel.spanOf_pos []

theorem opened (channel : Channel) : (Console.opened channel).Unfinished := of_pending rfl

/-- No action leaves anything complete behind. -/
theorem perform (h : console.Unfinished) (action : Action) :
    (console.perform action).2.Unfinished := by
  intro hfailure
  have hgranted := refusal?_eq_none hfailure
  cases action with
  | printLine text => exact unfinished_offer console _ hfailure
  | offer bytes => exact unfinished_offer console bytes hfailure
  | write bytes =>
    revert hfailure
    simp only [Console.perform, writeBytes]
    split_ifs with hempty
    · exact h
    · exact unfinished_offer console bytes
  | read =>
    -- The line that is read may make another output due, but nothing is held back any more.
    obtain ⟨line, hline⟩ := exists_eq_ok_of_refusal?_ofLine hgranted
    have hread : console.readLine = (.ok line, console.readLine.2) := Prod.ext hline rfl
    obtain ⟨-, -, -, hpending⟩ := exists_of_readLine hread
    exact of_pending hpending hfailure
  | flush =>
    revert hfailure
    simp only [Console.perform, emitPartial]
    split_ifs with hstays
    · exact h
    · exact of_pending rfl
  | finish => exact of_pending (pending_emitAll (eq_ok_of_refusal?_ofResult hgranted)) hfailure
  | askTurn => exact h hfailure

/-- Any number of actions leave nothing complete behind. -/
theorem performAll (h : console.Unfinished) (actions : List Action) :
    (console.performAll actions).Unfinished := by
  induction actions generalizing console with
  | nil => exact h
  | cons action rest ih => exact ih (h.perform action)

end Unfinished

/-- No finished line is held back, except for an output of several lines. Let a program do anything
at a console that was opened on a channel, at the beginning of any script or behind whatever the
channel has been through, and let nothing have been refused. Then there are fewer line breaks in
what is held back than the output that is due now has lines, and none at all if it begins with a
mark, by its bytes or by the text that they are read as. So it is an unfinished line at most
whenever no output is due, or one of a single line, or any error. -/
theorem held_back_unfinished (channel : Channel) (actions : List Action)
    (hfailure : ((opened channel).performAll actions).channel.failure = none) :
    let console := (opened channel).performAll actions
    console.pending.count newlineByte < console.channel.pendingSpan ∧
      (console.channel.marks.isChatter (Text.Utf8.decodeLossy console.pending) = true →
        newlineByte ∉ console.pending) ∧
      (∀ mark ∈ [console.channel.marks.error, console.channel.marks.info], mark ≠ [] →
        Text.Utf8.encode mark <+: console.pending → newlineByte ∉ console.pending) ∧
      ((∀ pattern mode, console.channel.dueOutput? = some (pattern, mode) →
          mode = .errorSentinel ∨ '\n' ∉ pattern) → newlineByte ∉ console.pending) := by
  intro console
  have hshort := (Unfinished.opened channel).performAll actions hfailure
  change console.pending.count newlineByte < console.channel.spanOf console.pending at hshort
  have hcount : console.pending.count newlineByte < console.channel.pendingSpan :=
    Nat.lt_of_lt_of_le hshort (console.channel.spanOf_le console.pending)
  have hchatter : console.channel.marks.isChatter (Text.Utf8.decodeLossy console.pending) = true →
      newlineByte ∉ console.pending := by
    intro hmarked
    rw [Channel.spanOf, if_pos hmarked, Nat.lt_one_iff] at hshort
    exact List.count_eq_zero.mp hshort
  refine ⟨hcount, hchatter, fun mark hmark hne hstart ↦ ?_, fun hdue ↦ ?_⟩
  · exact hchatter (Marks.isChatter_decodeLossy hmark hne hstart)
  · rw [Channel.pendingSpan_eq_one hdue, Nat.lt_one_iff] at hcount
    exact List.count_eq_zero.mp hcount

/-- An output of two lines is due. Its first line is held back, also by a flush; a remark that comes
instead is held back only as far as its line is unfinished; and behind the second line nothing more
is due, so that only the beginning of a line is held back. -/
theorem held_back_unfinished_two_lines :
    let script : Script :=
      ⟨none, [.input "x".toList, .expect "a\nb".toList .exact], List.cons_ne_nil _ _⟩
    let console (actions : List Action) :=
      (opened (Channel.start script Marks.standard)).performAll (.read :: actions)
    let first := console [.printLine "a".toList, .flush]
    let remark := console [.write (Text.Utf8.encode "Test: one\nTest: tw".toList)]
    let both := console [.printLine "a".toList, .write (Text.Utf8.encode "b\nand".toList)]
    (first.pending = Text.Utf8.encode "a\n".toList ∧ first.channel.pendingSpan = 2 ∧
        first.pending.count newlineByte < first.channel.pendingSpan) ∧
      (remark.pending = Text.Utf8.encode "Test: tw".toList ∧ remark.channel.pendingSpan = 2 ∧
        newlineByte ∉ remark.pending) ∧
      (both.pending = Text.Utf8.encode "and".toList ∧ both.channel.dueOutput? = none ∧
        newlineByte ∉ both.pending) := by
  intro script console first remark both
  have hfirst : first.channel.failure = none := by decide +kernel
  have hremark : remark.channel.failure = none := by decide +kernel
  have hboth : both.channel.failure = none := by decide +kernel
  have hdue : both.channel.dueOutput? = none := by decide +kernel
  have hstart : Text.Utf8.encode "Test: ".toList <+: remark.pending := by decide +kernel
  have hmark : "Test: ".toList ∈ [remark.channel.marks.error, remark.channel.marks.info] := by
    decide +kernel
  refine ⟨⟨by decide +kernel, by decide +kernel, (held_back_unfinished _ _ hfirst).1⟩,
    ⟨by decide +kernel, by decide +kernel, ?_⟩, ⟨by decide +kernel, hdue, ?_⟩⟩
  · exact (held_back_unfinished _ _ hremark).2.2.1 _ hmark (by decide +kernel) hstart
  · refine (held_back_unfinished _ _ hboth).2.2.2 fun pattern mode hpattern ↦ ?_
    exact absurd (hdue.symm.trans hpattern) (by simp)

end Console

end Dialogue
