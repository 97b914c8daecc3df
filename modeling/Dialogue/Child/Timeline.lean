import Dialogue.Child.Basic
import Dialogue.Peer

/-!
# The timeline of a child

A child and the harness have one clock, and what they do takes no time unless they wait. The child
goes first: it does at once whatever it can do without text that has not been sent (`follow`). Time
passes only while the harness waits, for a line or for the exit, and no further than to what it
waits for. So a child is a process as it is seen from outside (`Child.peer`).

How a child goes on does not depend on where it was interrupted (`follow_follow`), nor on the lines
that have not been received (`exists_follow_withLines`); so every line that is received is one less
of those that can come before another one is sent (`ahead_receive_lt`).
-/

set_option autoImplicit false
set_option relaxedAutoImplicit false

namespace Dialogue

/-! ### Exchanges -/

/-- What has passed between a child and the harness. -/
structure Exchange where
  /-- The time since the start, in nanoseconds. -/
  now : Nat
  /-- The text that was sent and not yet read. -/
  unread : Text
  /-- Whether no more text will be sent. -/
  finished : Bool
  /-- The lines that were printed and not yet received, the last one first; what is no text is
  `none`. -/
  lines : List (Option Text)
  /-- The beginning of a line that is not yet printed to its end, the last byte first. -/
  unfinished : List UInt8
  /-- Whether somebody may still read what is sent. -/
  listens : Bool
  /-- Whether somebody may still print. -/
  speaks : Bool
  /-- Whether the process that was started has not exited. -/
  lives : Bool
  deriving Repr, DecidableEq, Inhabited

namespace Exchange

/-- Nothing has passed yet. -/
def start : Exchange where
  now := 0
  unread := []
  finished := false
  lines := []
  unfinished := []
  listens := true
  speaks := true
  lives := true

/-- A line that was printed, as a text. A carriage return at its end belongs to the line break. -/
def lineText (bytes : List UInt8) : Option Text :=
  Text.Utf8.decode? (if bytes.getLast? = some 13 then bytes.dropLast else bytes)

/-- A byte is printed. -/
def printByte (exchange : Exchange) (b : UInt8) : Exchange :=
  if b = newlineByte then
    { exchange with
      lines := lineText exchange.unfinished.reverse :: exchange.lines, unfinished := [] }
  else { exchange with unfinished := b :: exchange.unfinished }

/-- Some bytes are printed, if the output is still open. -/
def print (exchange : Exchange) (bytes : List UInt8) : Exchange :=
  if exchange.speaks then bytes.foldl printByte exchange else exchange

/-- The output is closed. A line that is not finished counts as one. -/
def closeOutput (exchange : Exchange) : Exchange :=
  let last := if exchange.unfinished.isEmpty then []
    else [Text.Utf8.decode? exchange.unfinished.reverse]
  { exchange with lines := last ++ exchange.lines, unfinished := [], speaks := false }

/-- The input is closed. -/
def closeInput (exchange : Exchange) : Exchange :=
  { exchange with listens := false }

/-- The process exits. -/
def depart (exchange : Exchange) : Exchange :=
  { exchange with lives := false }

/-- Some time passes. -/
def wait (exchange : Exchange) (time : Nat) : Exchange :=
  { exchange with now := max exchange.now time }

/-- What a child hears that waits for text, up to a time if there is one, and the exchange after it.
Whether time may pass up to some point depends on the exchange. -/
def hear? (passes : Exchange → Nat → Bool) (limit : Option Nat) (exchange : Exchange) :
    Option (Heard × Exchange) :=
  if !exchange.unread.isEmpty then
    some (.text exchange.unread, { exchange with unread := [] })
  else if exchange.finished then some (.finish, exchange)
  else (limit.filter (passes exchange)).map fun time ↦ (.nothing, exchange.wait time)

/-- The exchange with other lines to be received. -/
def withLines (exchange : Exchange) (lines : List (Option Text)) : Exchange :=
  { exchange with lines := lines }

end Exchange

/-! ### What the child does -/

/-- A child in the course of an exchange. -/
structure Timeline where
  /-- What the child does when it goes on. -/
  child : Child
  exchange : Exchange
  deriving Inhabited

namespace Timeline

/-- The child goes on until it waits, hangs or has exited. Whether time may pass up to some point
depends on the exchange. -/
def follow (passes : Exchange → Nat → Bool) : Child → Exchange → Timeline
  | .exits, exchange => ⟨.exits, exchange.closeOutput.closeInput.depart⟩
  | .hangs, exchange => ⟨.hangs, exchange⟩
  | .prints bytes next, exchange => follow passes (next ()) (exchange.print bytes)
  | .reads limit next, exchange =>
    match exchange.hear? passes limit with
    | some (heard, after) => follow passes (next heard after.now) after
    | none => ⟨.reads limit next, exchange⟩
  | .sleeps limit next, exchange =>
    if passes exchange limit then follow passes (next ()) (exchange.wait limit)
    else ⟨.sleeps limit next, exchange⟩
  | .closesInput next, exchange => follow passes (next ()) exchange.closeInput
  | .closesOutput next, exchange => follow passes (next ()) exchange.closeOutput
  | .departs next, exchange => follow passes (next ()) exchange.depart

/-- The child goes on from where it is. -/
def advance (passes : Exchange → Nat → Bool) (timeline : Timeline) : Timeline :=
  follow passes timeline.child timeline.exchange

/-- Time does not pass. -/
def atOnce (exchange : Exchange) (time : Nat) : Bool :=
  decide (time ≤ exchange.now)

/-- A child that has just been started. -/
def start (child : Child) : Timeline :=
  follow atOnce child .start

/-! ### What the harness does -/

/-- The harness sends a line. -/
def send (text : Text) (timeline : Timeline) : Bool × Timeline :=
  let exchange := timeline.exchange
  if exchange.listens then
    (true, follow atOnce timeline.child
      { exchange with unread := exchange.unread ++ text ++ ['\n'] })
  else (false, timeline)

/-- The harness waits for a line, up to a limit. -/
def receive (limit : Duration) (timeline : Timeline) : Received × Timeline :=
  let deadline := timeline.exchange.now + limit.nanoseconds
  let after := timeline.advance fun exchange time ↦
    decide (time ≤ deadline) && exchange.lines.isEmpty && exchange.speaks
  match after.exchange.lines.getLast? with
  | some content =>
    (match content with
      | some text => .line text
      | none => .unreadable,
      ⟨after.child, after.exchange.withLines after.exchange.lines.dropLast⟩)
  | none =>
    if after.exchange.speaks then (.silence, ⟨after.child, after.exchange.wait deadline⟩)
    else (.closed, after)

/-- The harness stops sending and waits for the exit, up to a limit, and then for the end of the
output. -/
def close (limit : Duration) (timeline : Timeline) : Bool × List (Option Text) :=
  let deadline := timeline.exchange.now + limit.nanoseconds
  let last := follow (fun exchange time ↦ decide (time ≤ deadline) && exchange.lives)
    timeline.child { timeline.exchange with finished := true }
  if last.exchange.lives then (false, [])
  else (true, (last.advance fun exchange _ ↦ exchange.speaks).exchange.lines.reverse)

/-! ### How much is to come -/

/-- Time passes without end. -/
def endlessly (_ : Exchange) (_ : Nat) : Bool := true

/-- How many lines can be received before another one is sent. -/
def ahead (timeline : Timeline) : Nat :=
  (timeline.advance endlessly).exchange.lines.length

theorem hear?_endlessly {passes : Exchange → Nat → Bool} {limit : Option Nat} {exchange : Exchange}
    {result : Heard × Exchange} (h : exchange.hear? passes limit = some result) :
    exchange.hear? endlessly limit = some result := by
  simp only [Exchange.hear?] at h ⊢
  split at h
  · simp_all
  · split at h
    · simp_all
    · obtain ⟨time, htime, heq⟩ := Option.map_eq_some_iff.1 h
      simp_all [Option.filter_eq_some_iff, endlessly]

theorem hear?_withLines (limit : Option Nat) (exchange : Exchange) (lines : List (Option Text)) :
    (exchange.withLines lines).hear? endlessly limit
      = (exchange.hear? endlessly limit).map fun (heard, after) ↦
        (heard, after.withLines lines) := by
  cases hunread : exchange.unread.isEmpty <;> cases hfinished : exchange.finished <;>
    cases limit <;>
    simp [Exchange.hear?, Exchange.withLines, Exchange.wait, hunread, hfinished, endlessly,
      Option.filter]

theorem follow_follow (passes : Exchange → Nat → Bool) (child : Child) (exchange : Exchange) :
    (follow passes child exchange).advance endlessly = follow endlessly child exchange := by
  induction child generalizing exchange with
  | exits => simp [follow, advance, Exchange.closeOutput, Exchange.closeInput, Exchange.depart]
  | hangs => rfl
  | prints bytes next ih => exact ih () _
  | closesInput next ih => exact ih () _
  | closesOutput next ih => exact ih () _
  | departs next ih => exact ih () _
  | sleeps limit next ih =>
    by_cases h : passes exchange limit
    · simpa [follow, h, endlessly] using ih () _
    · simp [follow, h, advance]
  | reads limit next ih =>
    cases h : exchange.hear? passes limit with
    | some result => simpa [follow, h, hear?_endlessly h] using ih _ _ _
    | none => simp [follow, h, advance]

theorem exists_print_withLines (bytes : List UInt8) (exchange : Exchange) :
    ∃ last added, ∀ lines,
      (exchange.withLines lines).print bytes = Exchange.withLines last (added ++ lines) := by
  cases hspeaks : exchange.speaks with
  | false => exact ⟨exchange, [], fun lines ↦ by simp [Exchange.print, Exchange.withLines, hspeaks]⟩
  | true =>
    suffices h : ∃ last added, ∀ lines, bytes.foldl Exchange.printByte (exchange.withLines lines)
        = Exchange.withLines last (added ++ lines) by
      obtain ⟨last, added, h⟩ := h
      exact ⟨last, added, fun lines ↦ by
        simpa [Exchange.print, Exchange.withLines, hspeaks] using h lines⟩
    clear hspeaks
    induction bytes generalizing exchange with
    | nil => exact ⟨exchange, [], fun lines ↦ rfl⟩
    | cons b rest ih =>
      by_cases hb : b = newlineByte
      · obtain ⟨last, added, h⟩ := ih { exchange with unfinished := [] }
        refine ⟨last, added ++ [Exchange.lineText exchange.unfinished.reverse], fun lines ↦ ?_⟩
        have := h (Exchange.lineText exchange.unfinished.reverse :: lines)
        simpa [Exchange.printByte, Exchange.withLines, hb] using this
      · obtain ⟨last, added, h⟩ := ih { exchange with unfinished := b :: exchange.unfinished }
        refine ⟨last, added, fun lines ↦ ?_⟩
        simpa [Exchange.printByte, Exchange.withLines, hb] using h lines

theorem exists_follow_withLines (child : Child) (exchange : Exchange) :
    ∃ last added, ∀ lines, (follow endlessly child (exchange.withLines lines)).exchange
      = Exchange.withLines last (added ++ lines) := by
  induction child generalizing exchange with
  | exits =>
    refine ⟨exchange.closeOutput.closeInput.depart,
      if exchange.unfinished.isEmpty then [] else [Text.Utf8.decode? exchange.unfinished.reverse],
      fun lines ↦ ?_⟩
    simp [follow, Exchange.closeOutput, Exchange.closeInput, Exchange.depart, Exchange.withLines]
  | hangs => exact ⟨exchange, [], fun lines ↦ rfl⟩
  | prints bytes next ih =>
    obtain ⟨middle, first, hprint⟩ := exists_print_withLines bytes exchange
    obtain ⟨last, added, h⟩ := ih () middle
    exact ⟨last, added ++ first, fun lines ↦ by simp [follow, hprint, h]⟩
  | closesInput next ih => exact ih () exchange.closeInput
  | closesOutput next ih =>
    obtain ⟨last, added, h⟩ := ih () exchange.closeOutput
    refine ⟨last, added ++ (if exchange.unfinished.isEmpty then []
      else [Text.Utf8.decode? exchange.unfinished.reverse]), fun lines ↦ ?_⟩
    simpa [follow, Exchange.closeOutput, Exchange.withLines] using h
      ((if exchange.unfinished.isEmpty then []
        else [Text.Utf8.decode? exchange.unfinished.reverse]) ++ lines)
  | departs next ih => exact ih () exchange.depart
  | sleeps limit next ih => exact ih () (exchange.wait limit)
  | reads limit next ih =>
    cases hhear : exchange.hear? endlessly limit with
    | none => exact ⟨exchange, [], fun lines ↦ by simp [follow, hear?_withLines, hhear]⟩
    | some result =>
      obtain ⟨last, added, h⟩ := ih result.1 result.2.now result.2
      refine ⟨last, added, fun lines ↦ ?_⟩
      rw [follow, hear?_withLines, hhear]
      exact h lines

theorem length_lines_advance_withLines (timeline : Timeline) (lines : List (Option Text)) :
    (ahead ⟨timeline.child, timeline.exchange.withLines lines⟩) + timeline.exchange.lines.length
      = timeline.ahead + lines.length := by
  obtain ⟨last, added, h⟩ := exists_follow_withLines timeline.child timeline.exchange
  have hown := h timeline.exchange.lines
  simp only [ahead, advance, h lines]
  rw [show timeline.exchange = timeline.exchange.withLines timeline.exchange.lines from rfl, hown]
  simp [Exchange.withLines]
  omega

theorem ahead_advance (passes : Exchange → Nat → Bool) (timeline : Timeline) :
    (timeline.advance passes).ahead = timeline.ahead :=
  congrArg (fun after : Timeline ↦ after.exchange.lines.length) (follow_follow passes _ _)

theorem ahead_receive_lt {limit : Duration} {timeline after : Timeline} {text : Text}
    (h : timeline.receive limit = (.line text, after)) : after.ahead < timeline.ahead := by
  have hahead := ahead_advance (fun exchange time ↦
    decide (time ≤ timeline.exchange.now + limit.nanoseconds) && exchange.lines.isEmpty
      && exchange.speaks) timeline
  simp only [receive] at h
  generalize timeline.advance _ = reached at h hahead
  split at h
  · next content hlast =>
    obtain ⟨-, rfl⟩ := Prod.mk.inj h
    have hpos : 0 < reached.exchange.lines.length :=
      List.length_pos_iff.mpr fun heq ↦ by simp [heq] at hlast
    have hlines := length_lines_advance_withLines reached reached.exchange.lines.dropLast
    rw [List.length_dropLast] at hlines
    omega
  · split at h <;> simp at h

end Timeline

/-- A child as it is seen from outside, by someone who waits no longer than a limit. -/
def Child.peer (child : Child) (limit : Duration) : Peer where
  State := Timeline
  initial := .start child
  send := Timeline.send
  receive := Timeline.receive limit
  close := Timeline.close limit
  ahead := Timeline.ahead
  ahead_receive_lt := Timeline.ahead_receive_lt

end Dialogue
