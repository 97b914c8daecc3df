import Dialogue.Console
import Dialogue.Proofs.Channel.Chatter
import Dialogue.Proofs.Text.Utf8
import Mathlib.Tactic.SplitIfs

/-!
# Lines at a console

A console cuts its bytes at the line break whose number is the span (`cutLines_eq_some_iff`), so it
holds them back as long as there are fewer line breaks than the span (`cutLines_eq_none`), and no
longer (`count_lt_of_cutLines_eq_none`). What is cut goes to the channel as a line, and what stands
behind it is looked at by itself (`drain_of_cutLines_some`). Text that ends in a line break
therefore goes to the channel as a whole if it has as many lines as its output takes up
(`drain_whole`), and is held back if it has fewer (`drain_held`).
-/

set_option autoImplicit false
set_option relaxedAutoImplicit false

namespace Dialogue

/-! ### Cutting at a line break -/

theorem cutLines_append {span : Nat} {line : List UInt8}
    (hspan : line.count newlineByte + 1 = span) (rest : List UInt8) :
    cutLines span (line ++ newlineByte :: rest) = some (line, rest) := by
  induction line generalizing span with
  | nil =>
    rw [List.nil_append, cutLines, if_pos rfl, if_pos (by simpa using Nat.le_of_eq hspan.symm)]
  | cons b line ih =>
    rw [List.cons_append, cutLines]
    split_ifs with hb hone
    · subst hb
      rw [List.count_cons_self] at hspan
      omega
    · subst hb
      rw [List.count_cons_self] at hspan
      rw [ih (by omega), Option.map_some]
    · rw [List.count_cons_of_ne hb] at hspan
      rw [ih hspan, Option.map_some]

theorem count_of_cutLines {span : Nat} {bytes line rest : List UInt8} (hspan : 0 < span)
    (h : cutLines span bytes = some (line, rest)) :
    bytes = line ++ newlineByte :: rest ∧ line.count newlineByte + 1 = span := by
  induction bytes generalizing span line with
  | nil => contradiction
  | cons b bytes ih =>
    unfold cutLines at h
    split_ifs at h with hb hone
    · obtain ⟨rfl, rfl⟩ := Prod.mk.inj (Option.some.inj h)
      refine ⟨congrArg (· :: _) hb, ?_⟩
      simp only [List.count_nil]
      omega
    · obtain ⟨⟨init, after⟩, hcut, heq⟩ := Option.map_eq_some_iff.mp h
      obtain ⟨rfl, rfl⟩ := Prod.mk.inj heq
      obtain ⟨rfl, hcount⟩ := ih (by omega) hcut
      refine ⟨rfl, ?_⟩
      rw [hb, List.count_cons_self]
      omega
    · obtain ⟨⟨init, after⟩, hcut, heq⟩ := Option.map_eq_some_iff.mp h
      obtain ⟨rfl, rfl⟩ := Prod.mk.inj heq
      obtain ⟨rfl, hcount⟩ := ih hspan hcut
      refine ⟨rfl, ?_⟩
      rw [List.count_cons_of_ne hb, hcount]

/-- A cut is made at the line break whose number is the span. -/
theorem cutLines_eq_some_iff {span : Nat} {bytes line rest : List UInt8} (hspan : 0 < span) :
    cutLines span bytes = some (line, rest) ↔
      bytes = line ++ newlineByte :: rest ∧ line.count newlineByte + 1 = span := by
  constructor
  · exact count_of_cutLines hspan
  · rintro ⟨rfl, hcount⟩
    exact cutLines_append hcount rest

/-- No cut is made as long as there are fewer line breaks than the span. -/
theorem cutLines_eq_none {span : Nat} {bytes : List UInt8} (h : bytes.count newlineByte < span) :
    cutLines span bytes = none := by
  rw [Option.eq_none_iff_forall_ne_some]
  rintro ⟨line, rest⟩ hcut
  obtain ⟨rfl, hcount⟩ := (cutLines_eq_some_iff (by omega)).mp hcut
  rw [List.count_append, List.count_cons_self] at h
  omega

/-- Where no cut is made, there are fewer line breaks than the span. -/
theorem count_lt_of_cutLines_eq_none {span : Nat} {bytes : List UInt8} (hspan : 0 < span)
    (h : cutLines span bytes = none) : bytes.count newlineByte < span := by
  induction bytes generalizing span with
  | nil => exact hspan
  | cons b bytes ih =>
    unfold cutLines at h
    split_ifs at h with hb hone
    · have hrest := ih (by omega) (Option.map_eq_none_iff.mp h)
      rw [hb, List.count_cons_self]
      omega
    · rw [List.count_cons_of_ne hb]
      exact ih hspan (Option.map_eq_none_iff.mp h)

namespace Channel

/-- Bytes without enough line breaks stay. -/
theorem drain_of_cutLines_none {channel : Channel} {bytes : List UInt8}
    (hcut : cutLines (channel.spanOf bytes) bytes = none) :
    channel.drain bytes = (.ok (), ⟨channel, bytes⟩) := by
  rw [drain]
  split
  · rfl
  · next hsome => rw [hcut] at hsome; contradiction

/-- A line that is taken is followed by what stands behind it. -/
theorem drain_of_cutLines_some {channel after : Channel} {bytes line rest : List UInt8}
    (hcut : cutLines (channel.spanOf bytes) bytes = some (line, rest))
    (hwrite : channel.writeLine line = (.ok (), after)) :
    channel.drain bytes = after.drain rest := by
  rw [drain]
  split
  · next hnone => rw [hcut] at hnone; contradiction
  · next hsome =>
    obtain ⟨rfl, rfl⟩ := Prod.mk.inj (Option.some.inj (hcut.symm.trans hsome))
    rw [hwrite]

/-- A line that is refused is gone, and what stands behind it stays. -/
theorem drain_of_refused {channel after : Channel} {bytes line rest : List UInt8}
    {deviation : Deviation} (hcut : cutLines (channel.spanOf bytes) bytes = some (line, rest))
    (hwrite : channel.writeLine line = (.error deviation, after)) :
    channel.drain bytes = (.error deviation, ⟨after, rest⟩) := by
  rw [drain]
  split
  · next hnone => rw [hcut] at hnone; contradiction
  · next hsome =>
    obtain ⟨rfl, rfl⟩ := Prod.mk.inj (Option.some.inj (hcut.symm.trans hsome))
    rw [hwrite]

@[simp]
theorem drain_nil (channel : Channel) : channel.drain [] = (.ok (), ⟨channel, []⟩) :=
  drain_of_cutLines_none rfl

/-! ### Complete lines -/

/-- How many lines an output takes up is seen without the line break behind it. -/
theorem spanOf_encode_newline {channel : Channel} (hmarks : channel.marks.OneLine) (text : Text) :
    channel.spanOf (Text.Utf8.encode text ++ [newlineByte]) =
      if channel.marks.isChatter text then 1 else channel.pendingSpan := by
  have hnewline : Text.Utf8.decodeLossy [newlineByte] = ['\n'] :=
    Text.Utf8.decodeLossy_encode ['\n']
  rw [spanOf, Text.Utf8.decodeLossy_encode_append, hnewline,
    Marks.isChatter_append_newline hmarks]

/-- Lines that make up one output are given to the channel as a whole. -/
theorem drain_whole {channel : Channel} {text : Text}
    (hspan : channel.spanOf (Text.Utf8.encode text ++ [newlineByte]) = text.count '\n' + 1) :
    channel.drain (Text.Utf8.encode text ++ [newlineByte]) =
      ((channel.writeLine (Text.Utf8.encode text)).1,
        ⟨(channel.writeLine (Text.Utf8.encode text)).2, []⟩) := by
  have hcut : cutLines (channel.spanOf (Text.Utf8.encode text ++ [newlineByte]))
      (Text.Utf8.encode text ++ [newlineByte]) = some (Text.Utf8.encode text, []) := by
    rw [hspan]
    exact cutLines_append (congrArg (· + 1) (Text.Utf8.count_encode text)) []
  rcases hwrite : channel.writeLine (Text.Utf8.encode text) with ⟨deviation | _, after⟩
  · exact drain_of_refused hcut hwrite
  · exact (drain_of_cutLines_some hcut hwrite).trans (drain_nil after)

/-- Lines that are fewer than the output that is due spans are held back. -/
theorem drain_held {channel : Channel} {text : Text} (hmarks : channel.marks.OneLine)
    (hchatter : channel.marks.isChatter text = false)
    (hshort : text.count '\n' + 1 < channel.pendingSpan) :
    channel.drain (Text.Utf8.encode text ++ [newlineByte]) =
      (.ok (), ⟨channel, Text.Utf8.encode text ++ [newlineByte]⟩) := by
  have hcount : (Text.Utf8.encode text).count newlineByte = text.count '\n' :=
    Text.Utf8.count_encode text
  refine drain_of_cutLines_none (cutLines_eq_none ?_)
  rw [spanOf_encode_newline hmarks, hchatter, if_neg (by simp), List.count_append, hcount]
  exact hshort

end Channel

/-- Lines that were held back go out as one output with their last line break. -/
theorem Console.emitAll_held {channel : Channel} {text : Text} (hmarks : channel.marks.OneLine)
    (hchatter : channel.marks.isChatter text = false)
    (hshort : text.count '\n' + 1 < channel.pendingSpan) :
    (⟨channel, Text.Utf8.encode text ++ [newlineByte]⟩ : Console).emitAll =
      ((channel.writeLine (Text.Utf8.encode text)).1,
        ⟨(channel.writeLine (Text.Utf8.encode text)).2, []⟩) := by
  simp only [emitAll, drain, Channel.drain_held hmarks hchatter hshort]
  simp

/-- A console that holds nothing back gives nothing out. -/
@[simp]
theorem Console.emitAll_nil (channel : Channel) :
    (⟨channel, []⟩ : Console).emitAll = (.ok (), ⟨channel, []⟩) := by
  simp [emitAll, drain]

theorem Console.readLine_nil (channel : Channel) :
    (⟨channel, []⟩ : Console).readLine = (channel.read.1, ⟨channel.read.2, []⟩) := by
  rw [readLine, emitAll_nil]

/-- Nothing is held back when everything has gone out. -/
theorem Console.pending_emitAll {console : Console} (h : console.emitAll.1 = .ok ()) :
    console.emitAll.2.pending = [] := by
  revert h
  simp only [emitAll]
  rcases console.drain with ⟨deviation | _, drained⟩
  · intro h
    contradiction
  · dsimp only
    split_ifs with hempty hlast
    · exact fun _ ↦ hempty
    · exact fun _ ↦ rfl
    · exact fun _ ↦ rfl

/-- A line is read after all that was held back has gone out. -/
theorem Console.exists_of_readLine {console after : Console} {line : Text}
    (h : console.readLine = (.ok line, after)) :
    ∃ channel, console.emitAll = (.ok (), ⟨channel, []⟩) ∧
      channel.read = (.ok line, after.channel) ∧ after.pending = [] := by
  rw [readLine] at h
  rcases hemit : console.emitAll with ⟨deviation | _, emitted⟩
  · rw [hemit] at h
    exact absurd (congrArg Prod.fst h) (by simp)
  · have hpending := pending_emitAll (congrArg Prod.fst hemit)
    rw [hemit] at h hpending
    obtain ⟨channel, pending⟩ := emitted
    obtain rfl : pending = [] := hpending
    obtain ⟨hline, rfl⟩ := Prod.mk.inj h
    exact ⟨channel, rfl, Prod.ext hline rfl, rfl⟩

end Dialogue
