import Dialogue.Channel.Basic
import Dialogue.Text.Utf8

/-!
# The console of a program

A program writes bytes; its channel checks outputs. The console in between holds the bytes back
until a line is complete, or as many lines as the pattern that is due spans, and then gives the
channel the line as one output and its line break as another (`drain`). Before a line is read, and
at the end, whatever is held back goes out too (`emitAll`), so that the channel sees reads and
writes in the order in which the program made them. A flush gives out an unfinished line
(`emitPartial`).

`Action` names what a program may do at its console, and `perform` answers it.
-/

set_option autoImplicit false
set_option relaxedAutoImplicit false

namespace Dialogue

/-- A channel with the bytes that have been written and not yet given to it. -/
structure Console where
  channel : Channel
  pending : List UInt8
  deriving Repr, DecidableEq, Inhabited

/-! ### Cutting lines -/

/-- The byte of a line break. -/
def newlineByte : UInt8 := 10

/-- Cuts bytes at a line break, the `span`-th one: what stands before it, and what follows it. A
span of zero is one of one. -/
def cutLines (span : Nat) : List UInt8 → Option (List UInt8 × List UInt8)
  | [] => none
  | b :: rest =>
    if b = newlineByte then
      if span ≤ 1 then some ([], rest)
      else (cutLines (span - 1) rest).map fun (line, after) ↦ (b :: line, after)
    else (cutLines span rest).map fun (line, after) ↦ (b :: line, after)

theorem length_lt_of_cutLines {span : Nat} {bytes line rest : List UInt8}
    (h : cutLines span bytes = some (line, rest)) : rest.length < bytes.length := by
  induction bytes generalizing span line with
  | nil => simp [cutLines] at h
  | cons b bytes ih =>
    simp only [cutLines] at h
    split at h
    · split at h
      · simp only [Option.some.injEq, Prod.mk.injEq] at h
        simp [← h.2]
      · obtain ⟨⟨l, r⟩, hcut, heq⟩ := Option.map_eq_some_iff.1 h
        simp only [Prod.mk.injEq] at heq
        have := ih (heq.2 ▸ hcut)
        simp only [List.length_cons]
        omega
    · obtain ⟨⟨l, r⟩, hcut, heq⟩ := Option.map_eq_some_iff.1 h
      simp only [Prod.mk.injEq] at heq
      have := ih (heq.2 ▸ hcut)
      simp only [List.length_cons]
      omega

/-! ### Giving bytes to the channel -/

namespace Channel

/-- Writes a line without its line break, and then the line break. Carriage returns at the end of
the line are part of its ending, and an empty line is its line break alone. -/
def writeLine (channel : Channel) (line : List UInt8) : Except Deviation Unit × Channel :=
  let text := (Text.Utf8.decodeLossy line).trimReturns
  if text = [] then channel.write ['\n']
  else
    match channel.write text with
    | (.error deviation, after) => (.error deviation, after)
    | (.ok (), after) => after.write ['\n']

/-- How many lines the next output takes up: one for chatter, else what the pattern that is due
spans. -/
def spanOf (channel : Channel) (bytes : List UInt8) : Nat :=
  if channel.marks.isChatter (Text.Utf8.decodeLossy bytes) then 1 else channel.pendingSpan

/-- Gives complete lines to the channel until none is left that is long enough, or one is refused.
-/
def drain (channel : Channel) (bytes : List UInt8) : Except Deviation Unit × Console :=
  match _h : cutLines (channel.spanOf bytes) bytes with
  | none => (.ok (), ⟨channel, bytes⟩)
  | some (line, rest) =>
    match channel.writeLine line with
    | (.error deviation, after) => (.error deviation, ⟨after, rest⟩)
    | (.ok (), after) => after.drain rest
termination_by bytes.length
decreasing_by exact length_lt_of_cutLines _h

end Channel

namespace Console

/-- A console on which nothing has been written. -/
def opened (channel : Channel) : Console := ⟨channel, []⟩

/-- Gives complete lines to the channel. -/
def drain (console : Console) : Except Deviation Unit × Console :=
  console.channel.drain console.pending

/-- Gives an unfinished line to the channel. What holds a line break belongs to a pattern of several
lines and stays. -/
def emitPartial (console : Console) : Except Deviation Unit × Console :=
  if console.pending = [] ∨ newlineByte ∈ console.pending then (.ok (), console)
  else
    let (result, channel) := console.channel.write (Text.Utf8.decodeLossy console.pending)
    (result, ⟨channel, []⟩)

/-- Gives all that is held back to the channel: complete lines first, and the rest as one output. -/
def emitAll (console : Console) : Except Deviation Unit × Console :=
  match console.drain with
  | (.error deviation, after) => (.error deviation, after)
  | (.ok (), after) =>
    if after.pending = [] then (.ok (), after)
    else
      let (result, channel) :=
        if after.pending.getLast? = some newlineByte then
          after.channel.writeLine after.pending.dropLast
        else after.channel.write (Text.Utf8.decodeLossy after.pending)
      (result, ⟨channel, []⟩)

/-! ### What a program may do -/

/-- Reads a line, after all that was written before. -/
def readLine (console : Console) : Except Deviation Text × Console :=
  match console.emitAll with
  | (.error deviation, after) => (.error deviation, after)
  | (.ok (), after) =>
    let (result, channel) := after.channel.read
    (result, { after with channel := channel })

/-- Takes bytes behind those that are held back, and gives complete lines to the channel. -/
def offer (console : Console) (bytes : List UInt8) : Except Deviation Unit × Console :=
  console.channel.drain (console.pending ++ bytes)

/-- Writes all of some bytes. No bytes are no write at all. -/
def writeBytes (console : Console) (bytes : List UInt8) : Except Deviation Unit × Console :=
  if bytes = [] then (.ok (), console) else console.offer bytes

/-- Writes a line. -/
def printLine (console : Console) (text : Text) : Except Deviation Unit × Console :=
  console.offer (Text.Utf8.encode text ++ [newlineByte])

/-- Something that a program does at its console. -/
inductive Action where
  | read
  | printLine (text : Text)
  | write (bytes : List UInt8)
  /-- A single write, which may be one of no bytes. -/
  | offer (bytes : List UInt8)
  | flush
  | finish
  | askTurn
  deriving Repr, DecidableEq, Inhabited

/-- The answer to an action. -/
inductive Reply where
  | line (text : Text)
  | done
  | turn (turn : Turn)
  | refused (deviation : Deviation)
  deriving Repr, DecidableEq, Inhabited

/-- The reply to an action that gives nothing back. -/
def Reply.ofResult : Except Deviation Unit → Reply
  | .ok () => .done
  | .error deviation => .refused deviation

/-- The reply to a read. -/
def Reply.ofLine : Except Deviation Text → Reply
  | .ok text => .line text
  | .error deviation => .refused deviation

/-- Does an action and answers it. -/
def perform (console : Console) : Action → Reply × Console
  | .read => let (result, after) := console.readLine; (.ofLine result, after)
  | .printLine text => let (result, after) := console.printLine text; (.ofResult result, after)
  | .write bytes => let (result, after) := console.writeBytes bytes; (.ofResult result, after)
  | .offer bytes => let (result, after) := console.offer bytes; (.ofResult result, after)
  | .flush => let (result, after) := console.emitPartial; (.ofResult result, after)
  | .finish => let (result, after) := console.emitAll; (.ofResult result, after)
  | .askTurn => (.turn console.channel.turn, console)

end Console

end Dialogue
