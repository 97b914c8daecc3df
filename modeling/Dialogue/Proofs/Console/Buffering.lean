import Dialogue.Proofs.Channel.Chatter
import Dialogue.Proofs.Console.Lines
import Dialogue.Proofs.Console.Refused
import Dialogue.Proofs.Text.Lossy

/-!
# Output in parts

A console gives its channel complete lines, so it does not matter in how many parts they are
written. Whether bytes are chatter is seen from their first line (`spanOf_append`), so a line that
can be cut off is the same one when more bytes stand behind it (`cutLines_append_right`). By
induction on the lines that are given to the channel, writing two parts together is writing the
first one and then, unless something of it is refused, the second one behind what it has left
(`drain_append`, `offer_append`). A flush hands over what a read would hand over anyway
(`readLine_emitPartial`), and finds nothing to hand over behind a line break
(`emitPartial_of_getLast?`).
-/

set_option autoImplicit false
set_option relaxedAutoImplicit false

namespace Dialogue

/-! ### Cutting with more behind -/

/-- A cut that is made is made in the same place when more bytes follow. -/
theorem cutLines_append_right {span : Nat} {bytes line rest : List UInt8} (hspan : 0 < span)
    (h : cutLines span bytes = some (line, rest)) (more : List UInt8) :
    cutLines span (bytes ++ more) = some (line, rest ++ more) := by
  obtain ⟨rfl, hcount⟩ := (cutLines_eq_some_iff hspan).mp h
  rw [List.append_assoc, List.cons_append]
  exact cutLines_append hcount (rest ++ more)

namespace Channel

theorem pendingSpan_pos (channel : Channel) : 0 < channel.pendingSpan := by
  unfold pendingSpan
  split <;> exact Nat.succ_pos _

theorem spanOf_pos (channel : Channel) (bytes : List UInt8) : 0 < channel.spanOf bytes := by
  unfold spanOf
  split
  · exact Nat.one_pos
  · exact channel.pendingSpan_pos

/-- What stands behind a line break does not tell how many lines the next output takes up. -/
theorem spanOf_append {channel : Channel} (hmarks : channel.marks.OneLine) {bytes : List UInt8}
    (hnewline : newlineByte ∈ bytes) (more : List UInt8) :
    channel.spanOf (bytes ++ more) = channel.spanOf bytes := by
  obtain ⟨line, rest, rfl⟩ := List.append_of_mem hnewline
  have hchatter (rest : List UInt8) :
      channel.marks.isChatter (Text.Utf8.decodeLossy (line ++ newlineByte :: rest)) =
        channel.marks.isChatter (Text.Utf8.decodeLossy line) := by
    rw [newlineByte, Text.Utf8.decodeLossy_append_lineFeed, Marks.isChatter_append_newline hmarks]
  rw [List.append_assoc, List.cons_append, spanOf, spanOf, hchatter, hchatter]

theorem marks_writeLine {channel after : Channel} {line : List UInt8}
    {result : Except Deviation Unit} (h : channel.writeLine line = (result, after)) :
    after.marks = channel.marks := by
  have hmakes := channel.makes_writeLine line
  rw [h] at hmakes
  exact hmakes.marks_eq

/-- Bytes that come together are taken as if the second part of them had come later. -/
theorem drain_append {channel : Channel} (hmarks : channel.marks.OneLine)
    (bytes more : List UInt8) :
    channel.drain (bytes ++ more) =
      match channel.drain bytes with
      | (.ok (), after) => after.offer more
      | (.error deviation, after) =>
        (.error deviation, ⟨after.channel, after.pending ++ more⟩) := by
  fun_induction channel.drain bytes with
  | case1 => rfl
  | case2 channel bytes line rest hcut deviation after hwrite =>
    have hnewline : newlineByte ∈ bytes := by
      rw [((cutLines_eq_some_iff (channel.spanOf_pos bytes)).mp hcut).1]
      exact List.mem_append_right line List.mem_cons_self
    refine drain_of_refused ?_ hwrite
    rw [spanOf_append hmarks hnewline]
    exact cutLines_append_right (channel.spanOf_pos bytes) hcut more
  | case3 channel bytes line rest hcut after hwrite ih =>
    have hnewline : newlineByte ∈ bytes := by
      rw [((cutLines_eq_some_iff (channel.spanOf_pos bytes)).mp hcut).1]
      exact List.mem_append_right line List.mem_cons_self
    have hcut' : cutLines (channel.spanOf (bytes ++ more)) (bytes ++ more) =
        some (line, rest ++ more) := by
      rw [spanOf_append hmarks hnewline]
      exact cutLines_append_right (channel.spanOf_pos bytes) hcut more
    rw [drain_of_cutLines_some hcut' hwrite]
    exact ih (by rwa [marks_writeLine hwrite])

/-- What is held back is what was written last. -/
theorem drain_suffix (channel : Channel) (bytes : List UInt8) :
    (channel.drain bytes).2.pending <:+ bytes := by
  fun_induction channel.drain bytes with
  | case1 => exact List.suffix_rfl
  | case2 channel bytes line rest hcut =>
    rw [((cutLines_eq_some_iff (channel.spanOf_pos bytes)).mp hcut).1]
    exact (List.suffix_cons newlineByte rest).trans (List.suffix_append line _)
  | case3 channel bytes line rest hcut after hwrite ih =>
    refine ih.trans ?_
    rw [((cutLines_eq_some_iff (channel.spanOf_pos bytes)).mp hcut).1]
    exact (List.suffix_cons newlineByte rest).trans (List.suffix_append line _)

end Channel

/-! ### Writing -/

namespace Console

/-- Writing two parts together is writing the first one and, unless something of it is refused, the
second one. -/
theorem offer_append {console : Console} (hmarks : console.channel.marks.OneLine)
    (first second : List UInt8) :
    console.offer (first ++ second) =
      match console.offer first with
      | (.ok (), after) => after.offer second
      | (.error deviation, after) =>
        (.error deviation, ⟨after.channel, after.pending ++ second⟩) := by
  rw [offer, ← List.append_assoc]
  exact Channel.drain_append hmarks _ second

/-- Two consoles that cannot be told apart: their channels are the same, and what is held back is
too unless it no longer matters because something has been refused. -/
def Alike (first second : Console) : Prop :=
  first.channel = second.channel ∧ (second.channel.failure = none → first = second)

namespace Alike

variable {first second : Console}

theorem refl (console : Console) : console.Alike console := ⟨rfl, fun _ ↦ rfl⟩

theorem of_eq (h : first = second) : first.Alike second := h ▸ refl first

/-- Behind a refusal only the channels are compared. -/
theorem of_failure {deviation : Deviation} (hchannel : first.channel = second.channel)
    (hfailure : second.channel.failure = some deviation) : first.Alike second :=
  ⟨hchannel, fun hnone ↦ absurd (hnone.symm.trans hfailure) (by simp)⟩

end Alike

/-- Two parts of an output written one after the other make the same as both written at once. -/
theorem alike_offer {console : Console} (hmarks : console.channel.marks.OneLine)
    (first second : List UInt8) :
    ((console.offer first).2.offer second).2.Alike (console.offer (first ++ second)).2 := by
  have happend := offer_append hmarks first second
  rcases hfirst : console.offer first with ⟨deviation | _, after⟩
  · have hfailure := Channel.failure_of_drain hfirst
    rw [hfirst] at happend
    rw [happend]
    exact .of_failure (channel_offer_of_failure hfailure second) hfailure
  · rw [hfirst] at happend
    exact .of_eq (congrArg Prod.snd happend.symm)

/-- The same holds of writing all of some bytes. -/
theorem alike_writeBytes {console : Console} (hmarks : console.channel.marks.OneLine)
    (first second : List UInt8) :
    ((console.writeBytes first).2.writeBytes second).2.Alike
      (console.writeBytes (first ++ second)).2 := by
  by_cases hfirst : first = []
  · subst hfirst
    exact .refl _
  · by_cases hsecond : second = []
    · subst hsecond
      rw [List.append_nil]
      exact .refl _
    · have happend : first ++ second ≠ [] := List.append_ne_nil_of_left_ne_nil hfirst second
      simp only [writeBytes, if_neg hfirst, if_neg hsecond, if_neg happend]
      exact alike_offer hmarks first second

/-- A line is written as the bytes that it has with its line break. -/
theorem printLine_eq_writeBytes (console : Console) (text : Text) :
    console.printLine text = console.writeBytes (Text.Utf8.encode text ++ [newlineByte]) := by
  rw [printLine, writeBytes, if_neg (by simp)]

/-! ### Flushing -/

/-- A flush changes nothing for a read that follows it. -/
theorem readLine_emitPartial (console : Console) :
    console.emitPartial.2.readLine = console.readLine := by
  unfold emitPartial
  split_ifs with hnothing
  · rfl
  · obtain ⟨hne, hnewline⟩ := not_or.mp hnothing
    -- Without a line break everything that is held back is one output, for a flush and for a read.
    have hdrain : console.drain = (.ok (), console) := by
      refine Channel.drain_of_cutLines_none (cutLines_eq_none ?_)
      rw [List.count_eq_zero_of_not_mem hnewline]
      exact console.channel.spanOf_pos console.pending
    have hlast : console.pending.getLast? ≠ some newlineByte :=
      fun hlast ↦ hnewline (List.mem_of_getLast? hlast)
    have hemit : console.emitAll =
        ((console.channel.write (Text.Utf8.decodeLossy console.pending)).1,
          ⟨(console.channel.write (Text.Utf8.decodeLossy console.pending)).2, []⟩) := by
      simp only [emitAll, hdrain, if_neg hne, if_neg hlast]
    rw [readLine, readLine, hemit]
    rcases hwrite : console.channel.write (Text.Utf8.decodeLossy console.pending) with
      ⟨deviation | _, after⟩
    · simp only [emitAll_nil, Channel.read_of_failure (Channel.failure_of_write hwrite)]
    · simp only [emitAll_nil]

/-- Behind a line break there is nothing to flush. -/
theorem emitPartial_of_getLast? {console : Console} {bytes : List UInt8}
    (hlast : bytes.getLast? = some newlineByte) :
    (console.offer bytes).2.emitPartial = (.ok (), (console.offer bytes).2) := by
  have hsuffix := console.channel.drain_suffix (console.pending ++ bytes)
  change (console.offer bytes).2.pending <:+ _ at hsuffix
  rw [emitPartial, if_pos]
  refine Or.imp_right (fun hne ↦ ?_) (Decidable.em ((console.offer bytes).2.pending = []))
  obtain ⟨before, heq⟩ := hsuffix
  have hwhole := congrArg List.getLast? heq
  rw [List.getLast?_append_of_ne_nil _ hne, List.getLast?_append, hlast] at hwhole
  exact List.mem_of_getLast? hwhole

end Console

end Dialogue
