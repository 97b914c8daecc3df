import Dialogue.Proofs.Console.Returns
import Dialogue.Proofs.Speaker.Line
import Dialogue.Script.Parser

/-!
# What a remark does to a dialogue

A line under a mark is a remark and is meant to be no part of the dialogue. It reaches the channel
as two outputs, the text and its line break, and only the first of them bears the mark. The text is
taken at any time (`write_remark`). The line break behind it is an output of its own if a lone line
break is due, and only then, so that a remark which is made then stands for the expected output
(`Channel.afterRemark`, `printLine_remark`).

Everywhere else the dialogue stays where it is (`remark_consumes_lone_break_only`). A script that
expects a lone line break loses it to a remark (`remark_consumes_lone_break`).
-/

set_option autoImplicit false
set_option relaxedAutoImplicit false

namespace Dialogue

namespace Marks

/-- A text that begins with a mark that is not empty is chatter. -/
theorem isChatter_of_prefix {marks : Marks} {mark text : Text}
    (hmark : mark ∈ [marks.error, marks.info]) (hne : mark ≠ []) (hstart : mark <+: text) :
    marks.isChatter text = true :=
  isChatter_iff.mpr ⟨mark, hmark, hne, hstart⟩

/-- No mark holds a line feed or a carriage return. -/
theorem Unbroken.notMem {marks : Marks} (h : marks.Unbroken) {mark : Text}
    (hmark : mark ∈ [marks.error, marks.info]) : '\n' ∉ mark ∧ '\r' ∉ mark := by
  obtain ⟨⟨herror, hinfo⟩, herror', hinfo'⟩ := h
  rcases List.mem_pair.mp hmark with rfl | rfl
  · exact ⟨herror, herror'⟩
  · exact ⟨hinfo, hinfo'⟩

end Marks

namespace Channel

/-- The channel behind the text of a remark. -/
def told (channel : Channel) (text : Text) : Channel :=
  { channel with transcript := channel.transcript ++ text, newlineAllowed := true }

/-- The text of a remark is added to the transcript, whatever is due. -/
theorem write_remark {channel : Channel} {text : Text} (hfailure : channel.failure = none)
    (hline : '\n' ∉ text) (hchatter : channel.marks.isChatter text = true) :
    channel.write text = (.ok (), channel.told text) :=
  write_chatter hfailure (Text.unifyBreaks_of_newline_notMem hline) hchatter

/-- The channel behind a remark and its line break. The line break stands for the output that is due
if that is a lone line break. -/
def afterRemark (channel : Channel) (text : Text) : Channel :=
  if channel.dueOutput? = some loneBreak then (channel.told text).accept ['\n']
  else
    { channel with transcript := channel.transcript ++ text ++ ['\n'], newlineAllowed := false }

/-- The line break behind a remark is always taken. -/
theorem write_lineBreak_told {channel : Channel} (text : Text) (hfailure : channel.failure = none)
    (hmarks : channel.marks.OneLine) :
    (channel.told text).write ['\n'] = (.ok (), channel.afterRemark text) := by
  have hfailure' : (channel.told text).failure = none := hfailure
  have hmarks' : (channel.told text).marks.OneLine := hmarks
  have hdue : (channel.told text).dueOutput? = channel.dueOutput? := rfl
  rw [write_lineBreak_eq hfailure' hmarks', writeNewline, afterRemark, hdue, loneBreak]
  split_ifs with hlone hallowed
  · rfl
  · rfl
  · exact absurd (.inl rfl) hallowed

/-- A remark that is printed is granted, and nothing is held back behind it. -/
theorem printLine_remark {channel : Channel} {mark text : Text} (hfailure : channel.failure = none)
    (hmarks : channel.marks.Unbroken) (hmark : mark ∈ [channel.marks.error, channel.marks.info])
    (hne : mark ≠ []) (htext : '\n' ∉ text) :
    (Console.opened channel).printLine (mark ++ text) =
      (.ok (), Console.opened (channel.afterRemark (mark ++ text.trimReturns))) := by
  obtain ⟨hnewline, hreturn⟩ := hmarks.notMem hmark
  have hline : '\n' ∉ mark ++ text := List.not_mem_append hnewline htext
  have hchatter : channel.marks.isChatter (mark ++ text) = true :=
    Marks.isChatter_of_prefix hmark hne (List.prefix_append mark text)
  -- The carriage returns at the end of the line belong to its ending, but none of them to the mark.
  have htrim : text.trimReturns <+: text := List.rdropWhile_prefix (· == '\r') text
  have htrimmed : '\n' ∉ mark ++ text.trimReturns :=
    List.not_mem_append hnewline fun hmem ↦ htext (htrim.mem hmem)
  have hchatter' : channel.marks.isChatter (mark ++ text.trimReturns) = true :=
    Marks.isChatter_of_prefix hmark hne (List.prefix_append mark text.trimReturns)
  have hwrite : channel.writeLine (Text.Utf8.encode (mark ++ text)) =
      (.ok (), channel.afterRemark (mark ++ text.trimReturns)) := by
    rw [writeLine, Text.Utf8.decodeLossy_encode, Text.trimReturns_append hreturn,
      if_neg (List.append_ne_nil_of_left_ne_nil hne _), write_remark hfailure htrimmed hchatter']
    exact write_lineBreak_told _ hfailure hmarks.1
  have hspan : channel.spanOf (Text.Utf8.encode (mark ++ text) ++ [newlineByte]) =
      (mark ++ text).count '\n' + 1 := by
    rw [spanOf_encode_newline hmarks.1, if_pos hchatter, List.count_eq_zero_of_not_mem hline]
  have hdrain := drain_whole hspan
  rw [hwrite] at hdrain
  exact hdrain

/-! ### Where the dialogue stands -/

/-- What is done of a script, and whose turn it is. -/
def place (channel : Channel) : Nat × Nat × Turn × Bool :=
  (channel.inputsRead, channel.outputsMatched, channel.turn, channel.terminatorSent)

/-- A remark changes the transcript only, unless a lone line break is due. -/
theorem afterRemark_eq {channel : Channel} (text : Text)
    (hdue : channel.dueOutput? ≠ some loneBreak) :
    channel.afterRemark text =
      { channel with
        transcript := channel.transcript ++ text ++ ['\n']
        newlineAllowed := false } :=
  if_neg hdue

/-- If a lone line break is due, it is the one behind the remark. -/
theorem outputsMatched_afterRemark {channel : Channel} (text : Text)
    (hdue : channel.dueOutput? = some loneBreak) :
    (channel.afterRemark text).outputsMatched = channel.outputsMatched + 1 := by
  rw [afterRemark, if_pos hdue]
  rfl

/-- A remark keeps the place exactly if no lone line break is due. -/
theorem place_afterRemark_iff (channel : Channel) (text : Text) :
    (channel.afterRemark text).place = channel.place ↔ channel.dueOutput? ≠ some loneBreak := by
  constructor
  · intro hplace hdue
    have hmatched := outputsMatched_afterRemark text hdue
    have hsame : (channel.afterRemark text).outputsMatched = channel.outputsMatched :=
      congrArg (fun place ↦ place.2.1) hplace
    omega
  · intro hdue
    rw [afterRemark_eq text hdue]
    rfl

/-- A lone line break is due only in a script that expects one. -/
theorem dueOutput?_ne_loneBreak {channel : Channel} (h : .expect ['\n'] .exact ∉ channel.steps) :
    channel.dueOutput? ≠ some loneBreak := by
  intro hdue
  have hcurrent : channel.steps[channel.consumed]? = some (.expect ['\n'] .exact) :=
    current?_of_dueOutput? hdue
  exact h (List.mem_of_getElem? hcurrent)

/-- A remark is no part of the dialogue, except where a lone line break is due. Whatever the channel
has been through, if nothing has been refused and nothing is held back: a line under one of its
marks is granted, with nothing held back behind it and nothing refused, no input is read by it and
no terminator. It keeps the place in the script exactly if no lone line break is due, so in
particular where the script expects none; if one is due, the line break behind the remark is taken
for it. -/
theorem remark_consumes_lone_break_only {channel : Channel} {mark text : Text}
    (hfailure : channel.failure = none) (hmarks : channel.marks.Unbroken)
    (hmark : mark ∈ [channel.marks.error, channel.marks.info]) (hne : mark ≠ [])
    (htext : '\n' ∉ text) :
    ∃ after, (Console.opened channel).printLine (mark ++ text) = (.ok (), Console.opened after) ∧
      after.failure = none ∧ after.inputsRead = channel.inputsRead ∧
      after.terminatorSent = channel.terminatorSent ∧
      (after.place = channel.place ↔ channel.dueOutput? ≠ some loneBreak) ∧
      (.expect ['\n'] .exact ∉ channel.steps → after.place = channel.place) ∧
      (channel.dueOutput? = some loneBreak →
        after.outputsMatched = channel.outputsMatched + 1) := by
  have hplace := place_afterRemark_iff channel (mark ++ text.trimReturns)
  refine ⟨_, printLine_remark hfailure hmarks hmark hne htext, ?_, ?_, ?_, hplace,
    fun hscript ↦ hplace.mpr (dueOutput?_ne_loneBreak hscript), outputsMatched_afterRemark _⟩
  · rw [afterRemark]
    split_ifs <;> exact hfailure
  · rw [afterRemark]
    split_ifs <;> rfl
  · rw [afterRemark]
    split_ifs <;> rfl

/-- A remark between an input and the output that is due for it. -/
theorem remark_consumes_lone_break_only_between :
    let script : Script :=
      ⟨none, [.input "add 2 3".toList, .expect "5".toList .exact], List.cons_ne_nil _ _⟩
    let channel := (Channel.start script Marks.standard).read.2
    ∃ after, (Console.opened channel).printLine ("Test: ".toList ++ "one moment\r".toList) =
        (.ok (), Console.opened after) ∧
      channel.place = (1, 0, .awaitingWrite, false) ∧ after.place = channel.place := by
  intro script channel
  have hfailure : channel.failure = none := by decide +kernel
  have hmarks : channel.marks.Unbroken := by decide +kernel
  have hmark : "Test: ".toList ∈ [channel.marks.error, channel.marks.info] := by decide +kernel
  have htext : '\n' ∉ "one moment\r".toList := by decide +kernel
  obtain ⟨after, hprint, -, -, -, -, hplace, -⟩ :=
    remark_consumes_lone_break_only hfailure hmarks hmark (by decide +kernel) htext
  exact ⟨after, hprint, by decide +kernel, hplace (by decide +kernel)⟩

/-- A script that has been read from a text and expects a lone line break, behind its input: nothing
is held back and nothing has been refused, and still a remark is taken for the expected output. -/
theorem remark_consumes_lone_break :
    let script : Script :=
      ⟨none, [.input "x".toList, .expect "\n".toList .exact], List.cons_ne_nil _ _⟩
    let console :=
      ((Console.opened (Channel.start script Marks.standard)).perform .read).2
    let answer := console.printLine (Marks.standard.info ++ "hello".toList)
    Script.parse "\"\n\" : \"x\"\n".toList = .ok script ∧ Marks.standard.Unbroken ∧
      console.pending = [] ∧ console.channel.failure = none ∧ answer.1 = .ok () ∧
      console.channel.place = (1, 0, .awaitingWrite, false) ∧
      answer.2.channel.place = (1, 1, .awaitingRead, false) := by
  decide +kernel

end Channel

end Dialogue
