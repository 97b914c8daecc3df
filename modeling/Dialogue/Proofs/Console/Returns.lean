import Dialogue.Proofs.Console.Buffering
import Dialogue.Proofs.Console.Transcript
import Dialogue.Proofs.Text.Returns

/-!
# Lines that end in a carriage return and a line feed

A program may write a carriage return in front of every line feed (`Console.Action.withReturns`).
The console then holds back other bytes, but they are the same up to the carriage returns in front
of their line feeds (`Console.withReturns`), and what reaches the channel is the same. A line is cut
at the same line feed (`cutLines_withReturns`). Its own carriage return is trimmed and the ones
inside are unified by the channel (`writeLine_withReturns`), as are those of an output that goes out
without a line break behind it (`write_withReturns`).

`Unreturned.perform_withReturns` is the step lemma: an action gets the same reply and leaves the
same channel. As long as no carriage returns are written besides, the next action finds the two
consoles as alike as the first one did (`Unreturned.perform`), so the same is observed of any
actions (`Unreturned.observe_withReturns`).
-/

set_option autoImplicit false
set_option relaxedAutoImplicit false

namespace Dialogue

/-- The byte of a carriage return. -/
def returnByte : UInt8 := 13

/-! ### Lines of bytes -/

/-- A line is cut at the same line feed, in front of which it now has a carriage return. -/
theorem cutLines_withReturns (span : Nat) (bytes : List UInt8) :
    cutLines span (Text.Utf8.withReturns bytes) = (cutLines span bytes).map fun (line, rest) ↦
      (Text.Utf8.withReturns line ++ [returnByte], Text.Utf8.withReturns rest) := by
  have hreturn : returnByte ≠ newlineByte := by decide
  change cutLines span (putBefore newlineByte returnByte bytes) = (cutLines span bytes).map
    fun (line, rest) ↦
      (putBefore newlineByte returnByte line ++ [returnByte], putBefore newlineByte returnByte rest)
  induction bytes generalizing span with
  | nil => rfl
  | cons b bytes ih =>
    by_cases hb : b = newlineByte
    · subst hb
      rw [putBefore_cons_self, cutLines, if_neg hreturn, cutLines, if_pos rfl, cutLines, if_pos rfl]
      split_ifs with hspan
      · rfl
      · rw [ih, Option.map_map, Option.map_map, Option.map_map]
        refine congrArg (Option.map · _) (funext fun cut ↦ ?_)
        simp only [Function.comp, putBefore_cons_self, List.cons_append]
    · rw [putBefore_cons_of_ne hb, cutLines, if_neg hb, cutLines, if_neg hb, ih, Option.map_map,
        Option.map_map]
      refine congrArg (Option.map · _) (funext fun cut ↦ ?_)
      simp only [Function.comp, putBefore_cons_of_ne hb, List.cons_append]

/-- Without its last line feed a line still has the carriage return that stood in front of it. -/
theorem dropLast_withReturns {bytes : List UInt8} (h : bytes.getLast? = some newlineByte) :
    (Text.Utf8.withReturns bytes).dropLast =
      Text.Utf8.withReturns bytes.dropLast ++ [returnByte] := by
  obtain ⟨line, rfl⟩ := List.getLast?_eq_some_iff.mp h
  have hline : Text.Utf8.withReturns (line ++ [newlineByte]) =
      Text.Utf8.withReturns line ++ [returnByte] ++ [newlineByte] := by
    rw [List.append_assoc]
    exact Text.Utf8.withReturns_append_lineFeed line []
  rw [hline, List.dropLast_concat, List.dropLast_concat]

/-! ### At the channel -/

namespace Channel

/-- The channel unifies the line breaks of what it is given. -/
theorem write_withReturns (channel : Channel) {text : Text} (h : '\r' ∉ text) :
    channel.write text.withReturns = channel.write text := by
  rw [write, write, Text.unifyBreaks_withReturns h, Text.unifyBreaks_of_notMem h]

/-- The channel is given the same line, whichever way its line breaks are written. -/
theorem writeLine_withReturns (channel : Channel) {line : List UInt8} (h : returnByte ∉ line) :
    channel.writeLine (Text.Utf8.withReturns line ++ [returnByte]) = channel.writeLine line := by
  have hreturn : '\r' ∉ Text.Utf8.decodeLossy line := Text.Utf8.return_notMem_decodeLossy h
  have hline : Text.Utf8.decodeLossy (Text.Utf8.withReturns line ++ [returnByte]) =
      (Text.Utf8.decodeLossy line).withReturns ++ ['\r'] := by
    rw [returnByte, Text.Utf8.decodeLossy_append_return, Text.Utf8.decodeLossy_withReturns,
      Text.Utf8.decodeLossy]
  rw [writeLine, writeLine, hline, Text.trimReturns_withReturns hreturn,
    Text.trimReturns_of_notMem hreturn]
  simp only [Text.withReturns_eq_nil_iff, channel.write_withReturns hreturn]

/-- The next output takes up as many lines, whichever way their line breaks are written. -/
theorem spanOf_withReturns {channel : Channel} (hmarks : channel.marks.Unbroken)
    (bytes : List UInt8) : channel.spanOf (Text.Utf8.withReturns bytes) = channel.spanOf bytes := by
  rw [spanOf, spanOf, Text.Utf8.decodeLossy_withReturns, Marks.isChatter_withReturns hmarks]

end Channel

/-! ### At the console -/

/-- The console with a carriage return in front of every line feed that it holds back. -/
def Console.withReturns (console : Console) : Console :=
  ⟨console.channel, Text.Utf8.withReturns console.pending⟩

/-- The same complete lines are given to the channel, and the same bytes are held back. -/
theorem Channel.drain_withReturns {channel : Channel} (hmarks : channel.marks.Unbroken)
    {bytes : List UInt8} (h : returnByte ∉ bytes) :
    channel.drain (Text.Utf8.withReturns bytes) =
      ((channel.drain bytes).1, (channel.drain bytes).2.withReturns) := by
  have hcuts (channel : Channel) (bytes : List UInt8) (hmarks : channel.marks.Unbroken) :
      cutLines (channel.spanOf (Text.Utf8.withReturns bytes)) (Text.Utf8.withReturns bytes) =
        (cutLines (channel.spanOf bytes) bytes).map fun (line, rest) ↦
          (Text.Utf8.withReturns line ++ [returnByte], Text.Utf8.withReturns rest) := by
    rw [spanOf_withReturns hmarks, cutLines_withReturns]
  fun_induction channel.drain bytes with
  | case1 channel bytes hcut =>
    refine drain_of_cutLines_none ?_
    rw [hcuts channel bytes hmarks, hcut, Option.map_none]
  | case2 channel bytes line rest hcut deviation after hwrite =>
    have hbytes := ((cutLines_eq_some_iff (channel.spanOf_pos bytes)).mp hcut).1
    have hline : returnByte ∉ line := fun hmem ↦ h (hbytes ▸ List.mem_append_left _ hmem)
    refine drain_of_refused ?_ ((channel.writeLine_withReturns hline).trans hwrite)
    rw [hcuts channel bytes hmarks, hcut, Option.map_some]
  | case3 channel bytes line rest hcut after hwrite ih =>
    have hbytes := ((cutLines_eq_some_iff (channel.spanOf_pos bytes)).mp hcut).1
    have hline : returnByte ∉ line := fun hmem ↦ h (hbytes ▸ List.mem_append_left _ hmem)
    have hrest : returnByte ∉ rest := fun hmem ↦
      h (hbytes ▸ List.mem_append_right _ (List.mem_cons_of_mem _ hmem))
    rw [← ih (by rwa [marks_writeLine hwrite]) hrest]
    refine drain_of_cutLines_some ?_ ((channel.writeLine_withReturns hline).trans hwrite)
    rw [hcuts channel bytes hmarks, hcut, Option.map_some]

namespace Console

/-- The action with a carriage return in front of every line feed that it writes. A line that is
printed is written with its line break. -/
def Action.withReturns : Action → Action
  | printLine text => write (Text.Utf8.withReturns (Text.Utf8.encode text ++ [newlineByte]))
  | write bytes => write (Text.Utf8.withReturns bytes)
  | offer bytes => offer (Text.Utf8.withReturns bytes)
  | action => action

/-- A console that holds no carriage return back, and whose marks have none. -/
structure Unreturned (console : Console) : Prop where
  marks : console.channel.marks.Unbroken
  pending : returnByte ∉ console.pending

namespace Unreturned

variable {console : Console} {bytes : List UInt8} {action : Action}

/-! ### What is held back goes out -/

/-- An unfinished line has no line break in it. -/
theorem emitPartial (console : Console) :
    console.withReturns.emitPartial =
      (console.emitPartial.1, console.emitPartial.2.withReturns) := by
  have hbreak : newlineByte ∈ console.withReturns.pending ↔ newlineByte ∈ console.pending :=
    Text.Utf8.lineFeed_mem_withReturns_iff
  have hempty : console.withReturns.pending = [] ↔ console.pending = [] :=
    Text.Utf8.withReturns_eq_nil_iff
  simp only [Console.emitPartial, hempty, hbreak]
  split_ifs with hnothing
  · rfl
  · have hsame : console.withReturns.pending = console.pending :=
      Text.Utf8.withReturns_of_notMem (not_or.mp hnothing).2
    rw [hsame]
    rfl

/-- What is left behind the complete lines is the same output. -/
theorem emitAll (h : console.Unreturned) :
    console.withReturns.emitAll = (console.emitAll.1, console.emitAll.2.withReturns) := by
  have hdrain : console.withReturns.drain = (console.drain.1, console.drain.2.withReturns) :=
    Channel.drain_withReturns h.marks h.pending
  have hsuffix : console.drain.2.pending <:+ console.pending :=
    console.channel.drain_suffix console.pending
  simp only [Console.emitAll, hdrain]
  rcases hresult : console.drain with ⟨deviation | _, after⟩
  · rfl
  · rw [hresult] at hsuffix
    have hpending : returnByte ∉ after.pending := fun hmem ↦ h.pending (hsuffix.mem hmem)
    have hempty : after.withReturns.pending = [] ↔ after.pending = [] :=
      Text.Utf8.withReturns_eq_nil_iff
    have hlast : after.withReturns.pending.getLast? = after.pending.getLast? :=
      Text.Utf8.getLast?_withReturns after.pending
    have hwrite : after.channel.write (Text.Utf8.decodeLossy after.withReturns.pending) =
        after.channel.write (Text.Utf8.decodeLossy after.pending) := by
      rw [Console.withReturns, Text.Utf8.decodeLossy_withReturns,
        Channel.write_withReturns _ (Text.Utf8.return_notMem_decodeLossy hpending)]
    have hchannel : after.withReturns.channel = after.channel := rfl
    dsimp only
    rw [hlast, hchannel]
    simp only [hempty]
    split_ifs with hnothing hbreak
    · rfl
    · have hline : returnByte ∉ after.pending.dropLast :=
        fun hmem ↦ hpending ((List.dropLast_sublist _).mem hmem)
      have hcut : after.withReturns.pending.dropLast =
          Text.Utf8.withReturns after.pending.dropLast ++ [returnByte] :=
        dropLast_withReturns hbreak
      rw [hcut, Channel.writeLine_withReturns _ hline]
      rfl
    · rw [hwrite]
      rfl

/-- The same line is read. -/
theorem readLine (h : console.Unreturned) :
    console.withReturns.readLine = (console.readLine.1, console.readLine.2.withReturns) := by
  rw [Console.readLine, Console.readLine, h.emitAll]
  rcases console.emitAll with ⟨deviation | _, after⟩ <;> rfl

/-! ### What is written -/

theorem offer (h : console.Unreturned) (hbytes : returnByte ∉ bytes) :
    console.withReturns.offer (Text.Utf8.withReturns bytes) =
      ((console.offer bytes).1, (console.offer bytes).2.withReturns) := by
  have hall : returnByte ∉ console.pending ++ bytes := List.not_mem_append h.pending hbytes
  have hdrain := Channel.drain_withReturns h.marks hall
  rwa [Text.Utf8.withReturns_append] at hdrain

theorem writeBytes (h : console.Unreturned) (hbytes : returnByte ∉ bytes) :
    console.withReturns.writeBytes (Text.Utf8.withReturns bytes) =
      ((console.writeBytes bytes).1, (console.writeBytes bytes).2.withReturns) := by
  simp only [Console.writeBytes, Text.Utf8.withReturns_eq_nil_iff, h.offer hbytes]
  split_ifs <;> rfl

/-- An action gets the same reply, and the same bytes are held back behind it. -/
theorem perform_withReturns (h : console.Unreturned) (hbytes : returnByte ∉ action.bytes) :
    console.withReturns.perform action.withReturns =
      ((console.perform action).1, (console.perform action).2.withReturns) := by
  cases action with
  | read => simp only [Action.withReturns, Console.perform, h.readLine]
  | printLine text =>
    have hline : returnByte ∉ Text.Utf8.encode text ++ [newlineByte] := hbytes
    simp only [Action.withReturns, Console.perform, printLine_eq_writeBytes, h.writeBytes hline]
  | write bytes =>
    have hwritten : returnByte ∉ bytes := hbytes
    simp only [Action.withReturns, Console.perform, h.writeBytes hwritten]
  | offer bytes =>
    have hwritten : returnByte ∉ bytes := hbytes
    simp only [Action.withReturns, Console.perform, h.offer hwritten]
  | flush => simp only [Action.withReturns, Console.perform, emitPartial]
  | finish => simp only [Action.withReturns, Console.perform, h.emitAll]
  | askTurn => rfl

end Unreturned

/-! ### What is held back next -/

/-- What is held back when all goes out was held back before. -/
theorem pending_emitAll_suffix (console : Console) :
    console.emitAll.2.pending <:+ console.pending := by
  have hdrain : console.drain.2.pending <:+ console.pending :=
    console.channel.drain_suffix console.pending
  rw [emitAll]
  rcases hresult : console.drain with ⟨deviation | _, after⟩
  · rw [hresult] at hdrain
    exact hdrain
  · dsimp only
    split_ifs with hnothing
    · rw [hnothing]
      exact List.nil_suffix
    · exact List.nil_suffix
    · exact List.nil_suffix

/-- What is held back behind an action is what was written last. -/
theorem pending_perform_suffix (console : Console) (action : Action) :
    (console.perform action).2.pending <:+ console.pending ++ action.bytes := by
  have hoffer (bytes : List UInt8) :
      (console.offer bytes).2.pending <:+ console.pending ++ bytes :=
    console.channel.drain_suffix (console.pending ++ bytes)
  cases action with
  | printLine text => exact hoffer _
  | offer bytes => exact hoffer bytes
  | write bytes =>
    simp only [perform, writeBytes, Action.bytes]
    split_ifs with hempty
    · simp [hempty]
    · exact hoffer bytes
  | read =>
    rw [Action.bytes, List.append_nil]
    have hemit := console.pending_emitAll_suffix
    simp only [perform, readLine]
    rcases hresult : console.emitAll with ⟨deviation | _, after⟩ <;>
      (rw [hresult] at hemit; exact hemit)
  | flush =>
    rw [Action.bytes, List.append_nil]
    simp only [perform, emitPartial]
    split_ifs
    · exact List.suffix_rfl
    · exact List.nil_suffix
  | finish =>
    rw [Action.bytes, List.append_nil]
    exact console.pending_emitAll_suffix
  | askTurn =>
    rw [Action.bytes, List.append_nil]
    exact List.suffix_rfl

/-- An action that writes no carriage return leaves none behind. -/
theorem Unreturned.perform {console : Console} {action : Action} (h : console.Unreturned)
    (hbytes : returnByte ∉ action.bytes) : (console.perform action).2.Unreturned where
  marks := by
    rw [marks_perform]
    exact h.marks
  pending := fun hmem ↦ List.not_mem_append h.pending hbytes
    ((console.pending_perform_suffix action).mem hmem)

/-! ### Any actions -/

/-- What is seen of some actions: the reply to each of them, and the channel behind it. -/
def observe (console : Console) : List Action → List (Reply × Channel)
  | [] => []
  | action :: rest =>
    ((console.perform action).1, (console.perform action).2.channel) ::
      (console.perform action).2.observe rest

/-- The same is seen of any actions. -/
theorem Unreturned.observe_withReturns {console : Console} {actions : List Action}
    (h : console.Unreturned) (hactions : ∀ action ∈ actions, returnByte ∉ action.bytes) :
    console.withReturns.observe (actions.map Action.withReturns) = console.observe actions := by
  induction actions generalizing console with
  | nil => rfl
  | cons action rest ih =>
    obtain ⟨hbytes, hrest⟩ := List.forall_mem_cons.mp hactions
    rw [List.map_cons, observe, observe, h.perform_withReturns hbytes, ih (h.perform hbytes) hrest]
    rfl

end Console

end Dialogue
