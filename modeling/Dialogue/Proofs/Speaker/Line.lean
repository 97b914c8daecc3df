import Dialogue.Proofs.Channel.Left
import Dialogue.Proofs.Console.Buffering
import Dialogue.Proofs.Text.LowerCase
import Dialogue.Proofs.Text.Utf8

/-!
# What a channel makes of a line

A line is given to a channel in two requests, the line and its line break, and there are few things
that can become of it. Chatter is taken at any time (`writeLine_chatter`). Any other line must
satisfy the pattern that is due, or it is refused (`writeLine_refused`). An empty line is its line
break alone (`writeLine_encode_nil`), which is taken behind the last expected output
(`write_lineBreak`) and else refused (`write_lineBreak_refused`). This holds as long as no lone line
break is due: then a line break is never taken for an output.

Where no output is due, these are all the cases there are (`printLine_quiet_taken`,
`printLine_quiet_refused`).
-/

set_option autoImplicit false
set_option relaxedAutoImplicit false

namespace Dialogue

/-- A text without line breaks of any kind. -/
def Text.Plain (text : Text) : Prop :=
  '\n' ∉ text ∧ '\r' ∉ text

/-- The pattern that a lone line break satisfies. -/
def loneBreak : Text × MatchMode := (['\n'], .exact)

namespace Channel

/-! ### Single requests -/

section Write

variable {channel : Channel} {text : Text}

theorem write_lineBreak_eq (hfailure : channel.failure = none) (hmarks : channel.marks.OneLine) :
    channel.write ['\n'] = channel.writeNewline := by
  have hchunk : Text.unifyBreaks ['\n'] = ['\n'] := rfl
  rw [write, hfailure]
  simp only [hchunk, Marks.isChatter_newline hmarks, Bool.false_eq_true, if_false, if_true]

/-- A lone line break is taken if it may follow or stands behind the last expected output. -/
theorem write_lineBreak (hfailure : channel.failure = none) (hmarks : channel.marks.OneLine)
    (hdue : channel.dueOutput? ≠ some loneBreak)
    (hallowed : channel.newlineAllowed = true ∨ channel.outputsMatched = channel.outputTotal) :
    channel.write ['\n'] = (.ok (), { channel with
      transcript := channel.transcript ++ ['\n']
      newlineAllowed := false }) := by
  change channel.dueOutput? ≠ some (['\n'], .exact) at hdue
  rw [write_lineBreak_eq hfailure hmarks, writeNewline, if_neg hdue, if_pos hallowed]

/-- A lone line break is refused where it ends nothing. -/
theorem write_lineBreak_refused (hfailure : channel.failure = none)
    (hmarks : channel.marks.OneLine) (hdue : channel.dueOutput? ≠ some loneBreak)
    (hallowed : channel.newlineAllowed = false)
    (hleft : channel.outputsMatched ≠ channel.outputTotal) :
    ∃ deviation after, channel.write ['\n'] = (.error deviation, after) := by
  change channel.dueOutput? ≠ some (['\n'], .exact) at hdue
  rw [write_lineBreak_eq hfailure hmarks, writeNewline, if_neg hdue,
    if_neg (by simp [hallowed, hleft])]
  exact ⟨_, _, rfl⟩

/-- Chatter is taken at any time. -/
theorem write_chatter (hfailure : channel.failure = none) (hunified : text.unifyBreaks = text)
    (hchatter : channel.marks.isChatter text = true) :
    channel.write text = (.ok (), { channel with
      transcript := channel.transcript ++ text
      newlineAllowed := true }) := by
  rw [write, hfailure]
  simp only [hunified, hchatter, if_true]

/-- Anything else is refused unless it satisfies the pattern that is due. -/
theorem write_refused (hfailure : channel.failure = none) (hunified : text.unifyBreaks = text)
    (hchatter : channel.marks.isChatter text = false) (hlone : text ≠ ['\n'])
    (hdue : ∀ pattern mode, channel.dueOutput? = some (pattern, mode) →
      mode.accepts pattern text = false) :
    ∃ deviation after, channel.write text = (.error deviation, after) := by
  rw [write, hfailure]
  simp only [hunified, hchatter, Bool.false_eq_true, if_false, if_neg hlone]
  unfold writeValue
  split
  · next hturn =>
    split
    · next pattern mode hcurrent =>
      have hrefused : mode.accepts pattern text = false := by
        refine hdue pattern mode ?_
        simp only [dueOutput?, hturn, hcurrent]
      simp only [hrefused, Bool.false_eq_true, if_false]
      exact ⟨_, _, rfl⟩
    · exact ⟨_, _, rfl⟩
  · split
    · exact ⟨_, _, rfl⟩
    · exact ⟨_, _, rfl⟩
  · exact ⟨_, _, rfl⟩

end Write

/-! ### Lines -/

section Lines

variable {channel : Channel} {text : Text}

theorem writeLine_encode (hkept : text.Kept) (hne : text ≠ []) :
    channel.writeLine (Text.Utf8.encode text) =
      match channel.write text with
      | (.error deviation, after) => (.error deviation, after)
      | (.ok (), after) => after.write ['\n'] := by
  have htext : (Text.Utf8.decodeLossy (Text.Utf8.encode text)).trimReturns = text := by
    rw [Text.Utf8.decodeLossy_encode, hkept.trimmed]
  rw [writeLine, htext]
  exact if_neg hne

theorem writeLine_encode_nil (channel : Channel) :
    channel.writeLine (Text.Utf8.encode []) = channel.write ['\n'] := by
  simp only [writeLine, Text.Utf8.decodeLossy_encode, Text.trimReturns_of_notMem List.not_mem_nil,
    if_true]

/-- A line of chatter is taken and changes the transcript only. -/
theorem writeLine_chatter (hfailure : channel.failure = none) (hmarks : channel.marks.OneLine)
    (hdue : channel.dueOutput? ≠ some loneBreak) (hkept : text.Kept)
    (hchatter : channel.marks.isChatter text = true) :
    ∃ transcript, channel.writeLine (Text.Utf8.encode text) =
      (.ok (), { channel with transcript := transcript, newlineAllowed := false }) := by
  have hne : text ≠ [] := by
    rintro rfl
    have hnone := Marks.isChatter_newline hmarks
    have hsame := Marks.isChatter_append_newline hmarks [] []
    rw [List.nil_append, hnone, hchatter] at hsame
    contradiction
  rw [writeLine_encode hkept hne, write_chatter hfailure hkept.unified hchatter]
  refine ⟨(channel.transcript ++ text) ++ ['\n'], ?_⟩
  exact write_lineBreak hfailure hmarks hdue (.inl rfl)

/-- A line that is refused as an output is refused. -/
theorem writeLine_refused (hfailure : channel.failure = none) (hkept : text.Kept)
    (hne : text ≠ []) (hchatter : channel.marks.isChatter text = false) (hlone : text ≠ ['\n'])
    (hdue : ∀ pattern mode, channel.dueOutput? = some (pattern, mode) →
      mode.accepts pattern text = false) :
    ∃ deviation after, channel.writeLine (Text.Utf8.encode text) = (.error deviation, after) := by
  obtain ⟨deviation, after, hwrite⟩ := write_refused hfailure hkept.unified hchatter hlone hdue
  rw [writeLine_encode hkept hne, hwrite]
  exact ⟨deviation, after, rfl⟩

end Lines

/-! ### Lines where none is due -/

section Quiet

variable {channel : Channel} {line : Text}

/-- Where no output is due, a line is looked at by itself. -/
theorem printLine_quiet (hmarks : channel.marks.OneLine) (hdue : channel.dueOutput? = none)
    (hline : line.Plain) :
    (⟨channel, []⟩ : Console).printLine line =
      ((channel.writeLine (Text.Utf8.encode line)).1,
        ⟨(channel.writeLine (Text.Utf8.encode line)).2, []⟩) := by
  refine drain_whole ?_
  have hspan : channel.pendingSpan = 1 := by
    rw [pendingSpan, hdue]
  rw [spanOf_encode_newline hmarks, hspan, ite_self, List.count_eq_zero_of_not_mem hline.1]

theorem printLine_quiet_taken (hfailure : channel.failure = none) (hmarks : channel.marks.OneLine)
    (hdue : channel.dueOutput? = none) (hline : line.Plain)
    (hheard : channel.marks.isChatter line = true ∨
      line = [] ∧ channel.outputsMatched = channel.outputTotal) :
    ∃ transcript, (⟨channel, []⟩ : Console).printLine line =
      (.ok (), ⟨{ channel with transcript := transcript, newlineAllowed := false }, []⟩) := by
  rw [printLine_quiet hmarks hdue hline]
  rcases hheard with hchatter | ⟨rfl, hmatched⟩
  · obtain ⟨transcript, hwrite⟩ :=
      writeLine_chatter hfailure hmarks (by simp [hdue]) (.of_notMem hline.2) hchatter
    exact ⟨transcript, by rw [hwrite]⟩
  · have hwrite := write_lineBreak hfailure hmarks (by simp [hdue]) (.inr hmatched)
    exact ⟨_, by rw [writeLine_encode_nil, hwrite]⟩

theorem printLine_quiet_refused (hfailure : channel.failure = none)
    (hmarks : channel.marks.OneLine) (hdue : channel.dueOutput? = none)
    (hnewline : channel.newlineAllowed = false) (hline : line.Plain)
    (hchatter : channel.marks.isChatter line = false)
    (hleft : line = [] → channel.outputsMatched ≠ channel.outputTotal) :
    ∃ deviation after, (⟨channel, []⟩ : Console).printLine line = (.error deviation, after) := by
  rw [printLine_quiet hmarks hdue hline]
  by_cases hempty : line = []
  · subst hempty
    obtain ⟨deviation, after, hwrite⟩ :=
      write_lineBreak_refused hfailure hmarks (by simp [hdue]) hnewline (hleft rfl)
    exact ⟨deviation, ⟨after, []⟩, by rw [writeLine_encode_nil, hwrite]⟩
  · have hlone : line ≠ ['\n'] := by
      rintro rfl
      exact hline.1 List.mem_cons_self
    obtain ⟨deviation, after, hwrite⟩ := writeLine_refused hfailure (.of_notMem hline.2) hempty
      hchatter hlone fun pattern mode hsome ↦ by simp [hdue] at hsome
    exact ⟨deviation, ⟨after, []⟩, by rw [hwrite]⟩

end Quiet

end Channel

end Dialogue
