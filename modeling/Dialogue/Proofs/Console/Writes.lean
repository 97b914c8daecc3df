import Dialogue.Proofs.Console.Refused

/-!
# What writing leaves alone

A console gives out what it holds back by writing to its channel, and by nothing else. What every
write keeps (`Channel.KeptByWrites`) is therefore kept whenever output is given out (`keeps_drain`,
`keeps_emitAll`, `keeps_printLine`).
-/

set_option autoImplicit false
set_option relaxedAutoImplicit false

namespace Dialogue

variable {Kept : Channel → Prop}

/-- Every write keeps a property of the channel. -/
def Channel.KeptByWrites (Kept : Channel → Prop) : Prop :=
  ∀ (channel : Channel) (text : Text), Kept channel → Kept (channel.write text).2

theorem Channel.keeps_writeLine (hkept : KeptByWrites Kept) {channel : Channel}
    (h : Kept channel) (line : List UInt8) : Kept (channel.writeLine line).2 := by
  simp only [writeLine]
  split
  · exact hkept channel _ h
  · have hline := hkept channel (Text.Utf8.decodeLossy line).trimReturns h
    split
    · next hwrite => rwa [hwrite] at hline
    · next hwrite =>
      rw [hwrite] at hline
      exact hkept _ _ hline

theorem Channel.keeps_drain (hkept : KeptByWrites Kept) {channel : Channel} (h : Kept channel)
    (bytes : List UInt8) : Kept (channel.drain bytes).2.channel := by
  fun_induction channel.drain bytes with
  | case1 => exact h
  | case2 channel bytes line rest hcut deviation after hwrite =>
    have hline := keeps_writeLine hkept h line
    rwa [hwrite] at hline
  | case3 channel bytes line rest hcut after hwrite ih =>
    have hline := keeps_writeLine hkept h line
    rw [hwrite] at hline
    exact ih hline

namespace Console

variable {console : Console}

theorem keeps_emitAll (hkept : Channel.KeptByWrites Kept) (h : Kept console.channel) :
    Kept console.emitAll.2.channel := by
  have hdrain := Channel.keeps_drain hkept h console.pending
  change Kept console.drain.2.channel at hdrain
  simp only [emitAll]
  rcases hresult : console.drain with ⟨deviation | _, after⟩
  · rwa [hresult] at hdrain
  · rw [hresult] at hdrain
    dsimp only
    split_ifs
    · exact hdrain
    · exact Channel.keeps_writeLine hkept hdrain _
    · exact hkept _ _ hdrain

theorem keeps_printLine (hkept : Channel.KeptByWrites Kept) (h : Kept console.channel)
    (text : Text) : Kept (console.printLine text).2.channel :=
  Channel.keeps_drain hkept h _

end Console

end Dialogue
