import Dialogue.Script.Basic
import Dialogue.Channel.Chatter
import Dialogue.Channel.Deviation

/-!
# The channel between a program and its script

A channel stands in for the terminal of a program. It hands out the next line of the script when the
program asks for one and checks every output against the pattern that is due. The script takes
turns: an input that is due must be read before anything is written, and an expected output must be
written before anything is read. After the last step one more line, the terminator, is handed out.

The first deviation is recorded, and every later request is answered with it. A request that fails
changes nothing but that record (`read`, `write`, `finish`); `note` alone always adds its line to
the transcript.
-/

set_option autoImplicit false
set_option relaxedAutoImplicit false

namespace Dialogue

/-- The line that is handed out after the last input. -/
def terminator : Text := "quit".toList

/-- Whose turn it is. -/
inductive Turn where
  /-- The next line is to be read. -/
  | awaitingRead
  /-- The next expected output is to be written. -/
  | awaitingWrite
  /-- Every step is done and the terminator has been read. -/
  | drained
  deriving Repr, DecidableEq, Inhabited

/-- The state of one run of a script. -/
structure Channel where
  steps : List Step
  marks : Marks
  /-- How many lines of the script have been read. -/
  inputsRead : Nat
  /-- How many expected outputs have been written. -/
  outputsMatched : Nat
  turn : Turn
  /-- A line break may follow what was written last. -/
  newlineAllowed : Bool
  terminatorSent : Bool
  /-- What has been accepted, and the notes in between. -/
  transcript : Text
  /-- The first deviation. -/
  failure : Option Deviation
  deriving Repr, DecidableEq, Inhabited

namespace Channel

/-! ### Where a run stands -/

/-- How many steps are done. -/
def consumed (channel : Channel) : Nat :=
  channel.inputsRead + channel.outputsMatched

/-- The step that is due. -/
def current? (channel : Channel) : Option Step :=
  channel.steps[channel.consumed]?

/-- Whose turn it is before a step, or after the last one. -/
def turnAt (next : Option Step) (terminatorSent : Bool) : Turn :=
  match next with
  | some (.input _) => .awaitingRead
  | some (.expect _ _) => .awaitingWrite
  | none => if terminatorSent then .drained else .awaitingRead

/-- The channel after a step, with the turn passed on. -/
def passTurn (channel : Channel) : Channel :=
  { channel with turn := turnAt channel.current? channel.terminatorSent }

/-- The channel at the beginning of a script. -/
def start (script : Script) (marks : Marks) : Channel :=
  { steps := script.steps
    marks := marks
    inputsRead := 0
    outputsMatched := 0
    turn := turnAt script.steps.head? false
    newlineAllowed := false
    terminatorSent := false
    transcript := []
    failure := none }

/-- How many lines the script types. -/
def inputTotal (channel : Channel) : Nat :=
  channel.steps.countP Step.isInput

/-- How many outputs the script expects. -/
def outputTotal (channel : Channel) : Nat :=
  channel.steps.countP Step.isExpect

/-- What is left of the script. -/
def pending (channel : Channel) : Pending :=
  { inputs := channel.inputTotal - channel.inputsRead
    outputs := channel.outputTotal - channel.outputsMatched
    terminator := !channel.terminatorSent }

/-- The output that must be written next, if one is due. -/
def dueOutput? (channel : Channel) : Option (Text × MatchMode) :=
  match channel.turn, channel.current? with
  | .awaitingWrite, some (.expect pattern mode) => some (pattern, mode)
  | _, _ => none

/-- How many lines the output that is due spans; one if none is due or any error will do. -/
def pendingSpan (channel : Channel) : Nat :=
  match channel.dueOutput? with
  | some (_, .errorSentinel) => 1
  | some (pattern, _) => pattern.count '\n' + 1
  | none => 1

/-- How many more lines can be read: the inputs that are left, and the terminator. -/
def linesLeft (channel : Channel) : Nat :=
  channel.inputTotal - channel.inputsRead + (if channel.terminatorSent then 0 else 1)

/-! ### Requests -/

/-- A request is refused for a new deviation, which is recorded. -/
def fail {α : Type} (channel : Channel) (deviation : Deviation) : Except Deviation α × Channel :=
  (.error deviation, { channel with failure := some deviation })

/-- Reads the next line of the script, or the terminator after the last one. -/
def read (channel : Channel) : Except Deviation Text × Channel :=
  match channel.failure with
  | some deviation => (.error deviation, channel)
  | none =>
    match channel.turn with
    | .awaitingRead =>
      match channel.current? with
      | some (.input line) =>
        (.ok line, { channel with inputsRead := channel.inputsRead + 1 }.passTurn)
      | _ => (.ok terminator, { channel with terminatorSent := true }.passTurn)
    | .awaitingWrite =>
      channel.fail (.violation (.readBeforeOutputs (channel.outputTotal - channel.outputsMatched)))
    | .drained => channel.fail (.violation .readAfterTerminator)

/-- The channel after an output that satisfies the pattern that is due. -/
def accept (channel : Channel) (chunk : Text) : Channel :=
  { channel with
    transcript := channel.transcript ++ chunk
    outputsMatched := channel.outputsMatched + 1
    newlineAllowed := true }.passTurn

/-- The pattern at the current step, as a message shows it. -/
def describeCurrent (channel : Channel) : Text :=
  (channel.current?.bind Step.expectation?).getD []

/-- Writes a lone line break. It satisfies a pattern that is a line break; otherwise it ends what
was written just before it, or stands behind the last expected output. -/
def writeNewline (channel : Channel) : Except Deviation Unit × Channel :=
  if channel.dueOutput? = some (['\n'], .exact) then (.ok (), channel.accept ['\n'])
  else if channel.newlineAllowed ∨ channel.outputsMatched = channel.outputTotal then
    (.ok (), { channel with
      transcript := channel.transcript ++ ['\n']
      newlineAllowed := false })
  else
    let expected :=
      match channel.dueOutput? with
      | some _ => channel.describeCurrent
      | none => "input ".toList ++ Text.ofNat (channel.inputsRead + 1)
    channel.fail (.mismatch expected "new line".toList)

/-- Writes an output that is neither chatter nor a lone line break. -/
def writeValue (channel : Channel) (chunk : Text) : Except Deviation Unit × Channel :=
  match channel.turn with
  | .awaitingWrite =>
    match channel.current? with
    | some (.expect pattern mode) =>
      if mode.accepts pattern chunk then (.ok (), channel.accept chunk)
      else channel.fail (.mismatch channel.describeCurrent chunk)
    | _ => channel.fail (.mismatch channel.describeCurrent chunk)
  | .awaitingRead =>
    if channel.outputsMatched < channel.outputTotal then
      channel.fail (.violation (.wroteBeforeInput chunk (channel.inputsRead + 1)))
    else channel.fail (.violation (.wroteAfterEnd chunk))
  | .drained => channel.fail (.violation (.wroteAfterEnd chunk))

/-- Writes one output: chatter, a lone line break, or a value. -/
def write (channel : Channel) (text : Text) : Except Deviation Unit × Channel :=
  match channel.failure with
  | some deviation => (.error deviation, channel)
  | none =>
    let chunk := text.unifyBreaks
    if channel.marks.isChatter chunk then
      (.ok (), { channel with
        transcript := channel.transcript ++ chunk
        newlineAllowed := true })
    else if chunk = ['\n'] then channel.writeNewline
    else channel.writeValue chunk

/-- Adds a line to the transcript, on a line of its own. -/
def note (channel : Channel) (line : Text) : Channel :=
  let transcript :=
    if channel.transcript = [] ∨ channel.transcript.getLast? = some '\n' then channel.transcript
    else channel.transcript ++ ['\n']
  { channel with transcript := transcript ++ line ++ ['\n'] }

/-- Ends the run, which must have consumed the whole script and the terminator. -/
def finish (channel : Channel) : Except Deviation Unit × Channel :=
  match channel.failure with
  | some deviation => (.error deviation, channel)
  | none =>
    if channel.turn = .drained then (.ok (), channel)
    else channel.fail (.incomplete channel.pending)

end Channel

end Dialogue
