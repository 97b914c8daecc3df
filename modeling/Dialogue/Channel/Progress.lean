import Dialogue.Console

/-!
# Progress through a script

`Channel.toGo` measures what is left of a script: it falls with every line that is read
(`toGo_read_lt`) and never rises when something is written (`toGo_write_le`). What a program does
at its console inherits this (`toGo_readLine_lt`, `toGo_printLine_le`), so a conversation in which
a line is read again and again comes to an end.
-/

set_option autoImplicit false
set_option relaxedAutoImplicit false

namespace Dialogue

namespace Channel

/-- What is left of a script: its steps, the terminator, and whether a line is due. A step weighs
more than the rest, so that a step done is progress whatever comes next. -/
def toGo (channel : Channel) : Nat :=
  3 * (channel.steps.length - channel.consumed) + (if channel.terminatorSent then 0 else 1)
    + (if channel.turn = .awaitingRead then 1 else 0)

theorem consumed_lt_of_current? {channel : Channel} {step : Step}
    (h : channel.current? = some step) : channel.consumed < channel.steps.length := by
  simp only [current?] at h
  exact (List.getElem?_eq_some_iff.1 h).1

theorem turnAt_true_ne_awaitingRead {next : Option Step} (h : ∀ line, next ≠ some (.input line)) :
    turnAt next true ≠ .awaitingRead := by
  rcases next with _ | step
  · simp [turnAt]
  · cases step with
    | input line => exact absurd rfl (h line)
    | expect pattern mode => simp [turnAt]

/-! ### Reading -/

theorem toGo_read_lt {channel after : Channel} {line : Text}
    (h : channel.read = (.ok line, after)) : after.toGo < channel.toGo := by
  simp only [read] at h
  split at h
  · simp at h
  · split at h
    · next hturn =>
      split at h
      · next text hcurrent =>
        obtain ⟨-, rfl⟩ := Prod.mk.inj h
        have hlt := consumed_lt_of_current? hcurrent
        simp only [toGo, passTurn, consumed, hturn] at hlt ⊢
        split <;> split <;> simp_all <;> omega
      · next hcurrent =>
        obtain ⟨-, rfl⟩ := Prod.mk.inj h
        have hne : turnAt channel.current? true ≠ .awaitingRead :=
          turnAt_true_ne_awaitingRead fun text heq ↦ hcurrent text heq
        simp only [toGo, passTurn, consumed, hturn]
        simp only [current?, consumed] at hne ⊢
        simp only [hne, if_false, if_true]
        split <;> omega
    · simp [fail] at h
    · simp [fail] at h

/-! ### Writing -/

theorem toGo_accept_le {channel : Channel} {chunk : Text} {step : Step}
    (h : channel.current? = some step) : (channel.accept chunk).toGo ≤ channel.toGo := by
  have hlt := consumed_lt_of_current? h
  have hone (p : Prop) [Decidable p] : (if p then 1 else 0) ≤ 1 := by split <;> decide
  have hafter := hone ((channel.accept chunk).turn = .awaitingRead)
  have hsteps : (channel.accept chunk).steps = channel.steps := rfl
  have hsent : (channel.accept chunk).terminatorSent = channel.terminatorSent := rfl
  have hconsumed : (channel.accept chunk).consumed = channel.consumed + 1 := rfl
  simp only [toGo, hsteps, hsent, hconsumed]
  omega

theorem current?_of_dueOutput? {channel : Channel} {pattern : Text} {mode : MatchMode}
    (h : channel.dueOutput? = some (pattern, mode)) :
    channel.current? = some (.expect pattern mode) := by
  simp only [dueOutput?] at h
  split at h
  · next hcurrent =>
    simp only [Option.some.injEq, Prod.mk.injEq] at h
    rw [hcurrent, h.1, h.2]
  · contradiction

theorem toGo_writeNewline_le (channel : Channel) :
    channel.writeNewline.2.toGo ≤ channel.toGo := by
  simp only [writeNewline]
  split
  · next h => exact toGo_accept_le (current?_of_dueOutput? h)
  · split
    · exact Nat.le_refl _
    · exact Nat.le_refl _

theorem toGo_writeValue_le (channel : Channel) (chunk : Text) :
    (channel.writeValue chunk).2.toGo ≤ channel.toGo := by
  simp only [writeValue]
  split
  · split
    · next h =>
      split
      · exact toGo_accept_le h
      · exact Nat.le_refl _
    · exact Nat.le_refl _
  · split <;> exact Nat.le_refl _
  · exact Nat.le_refl _

theorem toGo_write_le (channel : Channel) (text : Text) :
    (channel.write text).2.toGo ≤ channel.toGo := by
  simp only [write]
  split
  · exact Nat.le_refl _
  · split
    · exact Nat.le_refl _
    · split
      · exact toGo_writeNewline_le channel
      · exact toGo_writeValue_le channel _

theorem toGo_writeLine_le (channel : Channel) (line : List UInt8) :
    (channel.writeLine line).2.toGo ≤ channel.toGo := by
  simp only [writeLine]
  split
  · exact toGo_write_le channel _
  · have hfirst := toGo_write_le channel (Text.Utf8.decodeLossy line).trimReturns
    split
    · next heq => rw [heq] at hfirst; exact hfirst
    · next after heq =>
      rw [heq] at hfirst
      exact Nat.le_trans (toGo_write_le after _) hfirst

theorem toGo_drain_le (channel : Channel) (bytes : List UInt8) :
    (channel.drain bytes).2.channel.toGo ≤ channel.toGo := by
  fun_induction channel.drain bytes with
  | case1 => exact Nat.le_refl _
  | case2 channel bytes line rest hcut deviation after heq =>
    have h := toGo_writeLine_le channel line
    rw [heq] at h
    exact h
  | case3 channel bytes line rest hcut after heq ih =>
    have h := toGo_writeLine_le channel line
    rw [heq] at h
    exact Nat.le_trans ih h

end Channel

/-! ### At the console -/

namespace Console

theorem toGo_emitAll_le (console : Console) :
    console.emitAll.2.channel.toGo ≤ console.channel.toGo := by
  have hdrain := console.channel.toGo_drain_le console.pending
  simp only [emitAll, drain]
  split
  · next heq => rw [heq] at hdrain; exact hdrain
  · next after heq =>
    rw [heq] at hdrain
    split
    · exact hdrain
    · refine Nat.le_trans ?_ hdrain
      split
      · exact after.channel.toGo_writeLine_le _
      · exact after.channel.toGo_write_le _

theorem toGo_readLine_lt {console after : Console} {line : Text}
    (h : console.readLine = (.ok line, after)) : after.channel.toGo < console.channel.toGo := by
  have hemit := console.toGo_emitAll_le
  simp only [readLine] at h
  split at h
  · simp at h
  · next emitted heq =>
    rw [heq] at hemit
    obtain ⟨hline, rfl⟩ := Prod.mk.inj h
    have hread : emitted.channel.read = (.ok line, emitted.channel.read.2) := by
      rw [← hline]
    exact Nat.lt_of_lt_of_le (Channel.toGo_read_lt hread) hemit

theorem toGo_printLine_le (console : Console) (text : Text) :
    (console.printLine text).2.channel.toGo ≤ console.channel.toGo :=
  console.channel.toGo_drain_le _

end Console

end Dialogue
