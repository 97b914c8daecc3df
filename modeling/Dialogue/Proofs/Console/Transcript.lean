import Dialogue.Proofs.Console.Buffering
import Dialogue.Proofs.Text.Sheds
import Dialogue.Proofs.Text.Utf8

/-!
# From a console to the transcript

What a program writes goes to the transcript in the order in which it was written, and nothing else
does. `Channel.Relays` says so of a text that is held back: a first part of it is added to the
transcript, up to carriage returns in front of line feeds, and the rest is still to come. A channel
relays an output that it takes and nothing of one that it refuses (`relays_write`); from there it is
carried to lines (`relays_writeLine`), to complete lines (`relays_drain`) and to what a console does
(`relays_printLine`, `relays_emitAll`, `relays_readLine`). As long as nothing is refused, the rest
is what the console holds back.
-/

set_option autoImplicit false
set_option relaxedAutoImplicit false

namespace Dialogue

namespace Channel

/-! ### What is relayed -/

/-- Of a text, all but a rest has been added to the transcript. -/
def Relays (before : Channel) (text rest : Text) (after : Channel) : Prop :=
  ∃ gone shown, text = gone ++ rest ∧ Text.Sheds gone shown ∧
    after.transcript = before.transcript ++ shown

namespace Relays

variable {before between after : Channel} {text rest more : Text}

theorem of_transcript_eq (h : after.transcript = before.transcript) (text : Text) :
    before.Relays text text after :=
  ⟨[], [], rfl, .nil, by rw [h, List.append_nil]⟩

theorem refl (channel : Channel) (text : Text) : channel.Relays text text channel :=
  of_transcript_eq rfl text

theorem trans (hfirst : before.Relays text rest between)
    (hsecond : between.Relays rest more after) :
    before.Relays text more after := by
  obtain ⟨gone, shown, rfl, hshed, htranscript⟩ := hfirst
  obtain ⟨gone', shown', rfl, hshed', htranscript'⟩ := hsecond
  exact ⟨gone ++ gone', shown ++ shown', (List.append_assoc ..).symm, hshed.append hshed',
    by rw [htranscript', htranscript, List.append_assoc]⟩

/-- What stands behind a text is still to come. -/
theorem append (h : before.Relays text rest after) (more : Text) :
    before.Relays (text ++ more) (rest ++ more) after := by
  obtain ⟨gone, shown, rfl, hshed, htranscript⟩ := h
  exact ⟨gone, shown, List.append_assoc .., hshed, htranscript⟩

end Relays

/-! ### At the channel -/

/-- What a request adds to the transcript. -/
theorem Transition.transcript_eq {channel after : Channel} {text : Text} {answer : Answer}
    (h : channel.Transition (.write text) answer after) :
    after.transcript =
      channel.transcript ++ if answer = .done then text.unifyBreaks else [] := by
  cases h with
  | repeated | refused => simp
  | output | chatter => rfl
  | newline _ _ hnewline => rw [if_pos rfl, hnewline]

theorem Transition.transcript_eq_of_read {channel after : Channel} {answer : Answer}
    (h : channel.Transition .read answer after) : after.transcript = channel.transcript := by
  cases h <;> rfl

/-- What a write adds to the transcript. -/
theorem transcript_write {channel after : Channel} {text : Text} {result : Except Deviation Unit}
    (h : channel.write text = (result, after)) :
    after.transcript =
      channel.transcript ++ if result = .ok () then text.unifyBreaks else [] := by
  have htransition := (transition_write channel text).transcript_eq
  rw [h] at htransition
  rcases result with deviation | _
  · simpa [Answer.ofResult] using htransition
  · simpa [Answer.ofResult] using htransition

/-- An output that is taken is relayed, and nothing of one that is refused. -/
theorem relays_write {channel after : Channel} {text : Text} {result : Except Deviation Unit}
    (h : channel.write text = (result, after)) :
    channel.Relays text (if result = .ok () then [] else text) after := by
  have htranscript := transcript_write h
  split_ifs at htranscript ⊢ with hresult
  · exact ⟨text, _, (List.append_nil text).symm, Text.sheds_unifyBreaks text, htranscript⟩
  · exact .of_transcript_eq (htranscript.trans (List.append_nil _)) text

/-- The line break of a line stands for its carriage returns too. -/
theorem relays_newline {channel after : Channel} {returns : Text} {result : Except Deviation Unit}
    (hreturns : ∀ c ∈ returns, c = '\r') (h : channel.write ['\n'] = (result, after)) :
    ∃ rest, channel.Relays (returns ++ ['\n']) rest after ∧ (result = .ok () → rest = []) := by
  have htranscript := transcript_write h
  by_cases hresult : result = .ok ()
  · rw [if_pos hresult] at htranscript
    exact ⟨[], ⟨_, _, (List.append_nil _).symm, Text.sheds_returns hreturns, htranscript⟩,
      fun _ ↦ rfl⟩
  · rw [if_neg hresult, List.append_nil] at htranscript
    exact ⟨_, .of_transcript_eq htranscript _, fun hok ↦ absurd hok hresult⟩

/-- A line is relayed with its line break. -/
theorem relays_writeLine {channel after : Channel} {line : Text} {result : Except Deviation Unit}
    (h : channel.writeLine (Text.Utf8.encode line) = (result, after)) :
    ∃ rest, channel.Relays (line ++ ['\n']) rest after ∧ (result = .ok () → rest = []) := by
  obtain ⟨returns, hline, hreturns⟩ := Text.exists_trimReturns line
  simp only [writeLine, Text.Utf8.decodeLossy_encode] at h
  split_ifs at h with hempty
  · rw [hempty, List.nil_append] at hline
    rw [hline]
    exact relays_newline hreturns h
  · rw [hline, List.append_assoc]
    rcases hwrite : channel.write line.trimReturns with ⟨deviation | _, between⟩
    · rw [hwrite] at h
      obtain ⟨rfl, rfl⟩ := Prod.mk.inj h
      have hrelays := relays_write hwrite
      exact ⟨_, hrelays.append _, fun hok ↦ by contradiction⟩
    · rw [hwrite] at h
      have hrelays := (relays_write hwrite).append (returns ++ ['\n'])
      obtain ⟨rest, hnewline, hrest⟩ := relays_newline hreturns h
      exact ⟨rest, hrelays.trans hnewline, hrest⟩

/-- A text that is cut at a line break is a line and what stands behind it. -/
theorem exists_of_cutLines {span : Nat} {held : Text} {line rest : List UInt8} (hspan : 0 < span)
    (h : cutLines span (Text.Utf8.encode held) = some (line, rest)) :
    ∃ first second, held = (first ++ ['\n']) ++ second ∧ line = Text.Utf8.encode first ∧
      rest = Text.Utf8.encode second := by
  obtain ⟨first, second, rfl, hline, hrest⟩ :=
    Text.Utf8.exists_of_encode_eq_append ((cutLines_eq_some_iff hspan).mp h).1
  exact ⟨first, second, by simp, hline, hrest⟩

/-- Complete lines are relayed, and the rest stays behind. -/
theorem relays_drain {channel : Channel} {held : Text} {result : Except Deviation Unit}
    {after : Console} (h : channel.drain (Text.Utf8.encode held) = (result, after)) :
    ∃ rest, channel.Relays held rest after.channel ∧
      (result = .ok () → after.pending = Text.Utf8.encode rest) := by
  generalize hbytes : Text.Utf8.encode held = bytes at h
  fun_induction channel.drain bytes generalizing held with
  | case1 channel bytes hcut =>
    obtain ⟨rfl, rfl⟩ := Prod.mk.inj h
    exact ⟨held, .refl channel held, fun _ ↦ hbytes.symm⟩
  | case2 channel bytes line rest hcut deviation last hwrite =>
    subst hbytes
    obtain ⟨rfl, rfl⟩ := Prod.mk.inj h
    obtain ⟨first, second, rfl, rfl, rfl⟩ := exists_of_cutLines (channel.spanOf_pos _) hcut
    obtain ⟨left, hrelays, -⟩ := relays_writeLine hwrite
    exact ⟨left ++ second, hrelays.append second, fun hok ↦ by contradiction⟩
  | case3 channel bytes line rest hcut last hwrite ih =>
    subst hbytes
    obtain ⟨first, second, rfl, rfl, rfl⟩ := exists_of_cutLines (channel.spanOf_pos _) hcut
    obtain ⟨left, hrelays, hleft⟩ := relays_writeLine hwrite
    obtain rfl := hleft rfl
    obtain ⟨others, hothers, hpending⟩ := ih rfl h
    exact ⟨others, (hrelays.append second).trans hothers, hpending⟩

end Channel

/-! ### At the console -/

namespace Console

open Channel (Relays)

variable {console after : Console} {held : Text} {result : Except Deviation Unit}

/-- Everything that is held back is relayed when it goes out. -/
theorem relays_emitAll (hpending : console.pending = Text.Utf8.encode held)
    (h : console.emitAll = (result, after)) :
    ∃ rest, console.channel.Relays held rest after.channel ∧
      (result = .ok () → rest = [] ∧ after.pending = []) := by
  simp only [emitAll, drain, hpending] at h
  rcases hdrain : console.channel.drain (Text.Utf8.encode held) with ⟨deviation | _, drained⟩
  · rw [hdrain] at h
    obtain ⟨rfl, rfl⟩ := Prod.mk.inj h
    obtain ⟨rest, hrelays, -⟩ := Channel.relays_drain hdrain
    exact ⟨rest, hrelays, fun hok ↦ by contradiction⟩
  · rw [hdrain] at h
    obtain ⟨rest, hrelays, hrest⟩ := Channel.relays_drain hdrain
    have hleft := hrest rfl
    dsimp only at h
    rw [hleft] at h
    split_ifs at h with hempty hlast
    · obtain ⟨rfl, rfl⟩ := Prod.mk.inj h
      rw [Text.Utf8.encode_eq_nil_iff] at hempty
      exact ⟨rest, hrelays, fun _ ↦ ⟨hempty, by rw [hleft, hempty]; rfl⟩⟩
    · -- The last line break is that of the line which is left.
      obtain ⟨rfl, rfl⟩ := Prod.mk.inj h
      obtain ⟨line, rfl⟩ : ∃ line, rest = line ++ ['\n'] :=
        List.getLast?_eq_some_iff.mp (Text.Utf8.getLast?_encode_eq_some_iff.mp hlast)
      have hbytes : (Text.Utf8.encode (line ++ ['\n'])).dropLast = Text.Utf8.encode line := by
        rw [Text.Utf8.encode_append]
        exact List.dropLast_concat
      rw [hbytes]
      rcases hwrite : drained.channel.writeLine (Text.Utf8.encode line) with ⟨written, last⟩
      obtain ⟨left, hline, hok⟩ := Channel.relays_writeLine hwrite
      exact ⟨left, hrelays.trans hline, fun hresult ↦ ⟨hok hresult, rfl⟩⟩
    · obtain ⟨rfl, rfl⟩ := Prod.mk.inj h
      rw [Text.Utf8.decodeLossy_encode]
      rcases hwrite : drained.channel.write rest with ⟨written, last⟩
      exact ⟨_, hrelays.trans (Channel.relays_write hwrite), fun hresult ↦ ⟨if_pos hresult, rfl⟩⟩

/-- What is written is relayed behind what is held back. -/
theorem relays_offer {more : Text} {bytes : List UInt8}
    (hpending : console.pending = Text.Utf8.encode held) (hbytes : bytes = Text.Utf8.encode more)
    (h : console.offer bytes = (result, after)) :
    ∃ rest, console.channel.Relays (held ++ more) rest after.channel ∧
      (result = .ok () → after.pending = Text.Utf8.encode rest) := by
  rw [offer, hpending, hbytes, ← Text.Utf8.encode_append] at h
  exact Channel.relays_drain h

/-- A line that is printed is relayed behind what is held back. -/
theorem relays_printLine {text : Text} (hpending : console.pending = Text.Utf8.encode held)
    (h : console.printLine text = (result, after)) :
    ∃ rest, console.channel.Relays (held ++ (text ++ ['\n'])) rest after.channel ∧
      (result = .ok () → after.pending = Text.Utf8.encode rest) := by
  refine relays_offer hpending ?_ h
  rw [Text.Utf8.encode_append]
  rfl

/-- An unfinished line is relayed when it is flushed. -/
theorem relays_emitPartial (hpending : console.pending = Text.Utf8.encode held)
    (h : console.emitPartial = (result, after)) :
    ∃ rest, console.channel.Relays held rest after.channel ∧
      (result = .ok () → after.pending = Text.Utf8.encode rest) := by
  simp only [emitPartial] at h
  split_ifs at h with hstays
  · obtain ⟨rfl, rfl⟩ := Prod.mk.inj h
    exact ⟨held, .refl _ held, fun _ ↦ hpending⟩
  · rw [hpending, Text.Utf8.decodeLossy_encode] at h
    obtain ⟨rfl, rfl⟩ := Prod.mk.inj h
    refine ⟨_, Channel.relays_write (Prod.eta _).symm, fun hok ↦ ?_⟩
    rw [if_pos hok]
    rfl

/-- Everything that is held back is relayed before a line is read. -/
theorem relays_readLine {result : Except Deviation Text}
    (hpending : console.pending = Text.Utf8.encode held)
    (h : console.readLine = (result, after)) :
    ∃ rest, console.channel.Relays held rest after.channel ∧
      (∀ line, result = .ok line → rest = [] ∧ after.pending = []) := by
  simp only [readLine] at h
  rcases hemit : console.emitAll with ⟨deviation | _, emitted⟩
  · rw [hemit] at h
    obtain ⟨rfl, rfl⟩ := Prod.mk.inj h
    obtain ⟨rest, hrelays, -⟩ := relays_emitAll hpending hemit
    exact ⟨rest, hrelays, fun line hok ↦ by contradiction⟩
  · rw [hemit] at h
    obtain ⟨rfl, rfl⟩ := Prod.mk.inj h
    obtain ⟨rest, hrelays, hrest⟩ := relays_emitAll hpending hemit
    obtain ⟨rfl, hempty⟩ := hrest rfl
    have hread := (Channel.transition_read emitted.channel).transcript_eq_of_read
    exact ⟨[], hrelays.trans (.of_transcript_eq hread []), fun _ _ ↦ ⟨rfl, hempty⟩⟩

/-! ### Any action -/

/-- The bytes that an action writes. -/
def Action.bytes : Action → List UInt8
  | printLine text => Text.Utf8.encode text ++ [newlineByte]
  | write bytes | offer bytes => bytes
  | read | flush | finish | askTurn => []

/-- Whatever a program does, what it writes is relayed behind what is held back. -/
theorem relays_perform {action : Action} {more : Text}
    (hpending : console.pending = Text.Utf8.encode held)
    (hbytes : action.bytes = Text.Utf8.encode more) :
    ∃ rest, console.channel.Relays (held ++ more) rest (console.perform action).2.channel ∧
      ((console.perform action).1.refusal? = none →
        (console.perform action).2.pending = Text.Utf8.encode rest) := by
  have hoffer : ∀ bytes, bytes = Text.Utf8.encode more →
      ∃ rest, console.channel.Relays (held ++ more) rest (console.offer bytes).2.channel ∧
        ((Reply.ofResult (console.offer bytes).1).refusal? = none →
          (console.offer bytes).2.pending = Text.Utf8.encode rest) := by
    intro bytes hmore
    obtain ⟨rest, hrelays, hrest⟩ := relays_offer hpending hmore (Prod.eta _).symm
    exact ⟨rest, hrelays, fun h ↦ hrest (eq_ok_of_refusal?_ofResult h)⟩
  -- An action that writes nothing leaves what is held back as it is, or lets it go out.
  have hsame (hnone : action.bytes = []) : held ++ more = held := by
    rw [Text.Utf8.encode_eq_nil_iff.mp (hbytes.symm.trans hnone), List.append_nil]
  cases action with
  | printLine text => exact hoffer _ hbytes
  | offer bytes => exact hoffer bytes hbytes
  | write bytes =>
    simp only [perform, writeBytes]
    split_ifs with hempty
    · rw [hsame hempty]
      exact ⟨held, .refl _ held, fun _ ↦ hpending⟩
    · exact hoffer bytes hbytes
  | read =>
    obtain ⟨rest, hrelays, hrest⟩ := relays_readLine hpending (Prod.eta _).symm
    rw [hsame rfl]
    refine ⟨rest, hrelays, fun h ↦ ?_⟩
    obtain ⟨line, hline⟩ := exists_eq_ok_of_refusal?_ofLine h
    obtain ⟨rfl, hempty⟩ := hrest line hline
    exact hempty
  | flush =>
    obtain ⟨rest, hrelays, hrest⟩ := relays_emitPartial hpending (Prod.eta _).symm
    rw [hsame rfl]
    exact ⟨rest, hrelays, fun h ↦ hrest (eq_ok_of_refusal?_ofResult h)⟩
  | finish =>
    obtain ⟨rest, hrelays, hrest⟩ := relays_emitAll hpending (Prod.eta _).symm
    rw [hsame rfl]
    refine ⟨rest, hrelays, fun h ↦ ?_⟩
    obtain ⟨rfl, hempty⟩ := hrest (eq_ok_of_refusal?_ofResult h)
    exact hempty
  | askTurn =>
    rw [hsame rfl]
    exact ⟨held, .refl _ held, fun _ ↦ hpending⟩

end Console

end Dialogue
