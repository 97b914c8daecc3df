import Dialogue.Channel.Progress
import Dialogue.Fault
import Dialogue.Program

/-!
# Programs outside of the harness

A program that runs as a process of its own is known only by what passes between it and the
harness: lines can be sent to it as long as it listens, lines are received from it unless it is
silent for too long or has closed its output, and in the end it exits or has to be stopped. A
`Peer` is any such process. `converse` leads the conversation: it does what the channel is waiting
for, sends the line that is due or passes on the next line received, until the script is done or
something goes wrong. Lines that arrive while an input is due wait for the next output; those that
are left over at the end must still satisfy the channel.
-/

set_option autoImplicit false
set_option relaxedAutoImplicit false

namespace Dialogue

/-- What comes from a process that is waited for. -/
inductive Received where
  | line (text : Text)
  /-- A line that is no text. -/
  | unreadable
  /-- Nothing, for too long. -/
  | silence
  /-- Nothing any more. -/
  | closed
  deriving Repr, DecidableEq, Inhabited

/-- A process as it is seen from outside. -/
structure Peer where
  /-- The states of the process. -/
  State : Type
  /-- The state in which it starts. -/
  initial : State
  /-- Why a line cannot be sent at all, other than that the process listens no more. -/
  sendError? : Text → State → Option Text := fun _ _ ↦ none
  /-- Sends a line, and says whether the process still listens. -/
  send : Text → State → Bool × State
  /-- Waits for a line. -/
  receive : State → Received × State
  /-- Stops sending and waits for the exit. Says whether it comes in time, and what was still to be
  received; what is no text is `none`. -/
  close : State → Bool × List (Option Text)
  /-- How many lines can be received at most before another one is sent. -/
  ahead : State → Nat
  ahead_receive_lt : ∀ {state after : State} {text : Text},
    receive state = (.line text, after) → ahead after < ahead state

namespace Peer

/-- The fault of a line that is no text. -/
def unreadableFault : Fault :=
  .transfer (.other "stream did not contain valid UTF-8".toList)

/-- The fault of a process that did not take the terminator. -/
def unreadTerminator : Fault :=
  .deviation (.incomplete ⟨0, 0, true⟩)

/-- Leads a conversation. A process that listens no more may still speak, but it must have taken the
terminator. Once its output is closed, the script tells what is missing. -/
def converse (peer : Peer) (limit : Duration) (console : Console) (state : peer.State) :
    Option Fault × Console × peer.State :=
  match console.channel.turn with
  | .drained => (none, console, state)
  | .awaitingRead =>
    match _h : console.readLine with
    | (.error deviation, after) => (some (.deviation deviation), after, state)
    | (.ok line, after) =>
      match peer.sendError? line state with
      | some reason => (some (.transfer (.other reason)), after, state)
      | none =>
        match peer.send line state with
        | (listens, state) =>
          if !listens && line = terminator then (some unreadTerminator, after, state)
          else converse peer limit after state
  | .awaitingWrite =>
    match _h : peer.receive state with
    | (.line text, next) =>
      match _h : console.printLine text with
      | (.error deviation, after) => (some (.deviation deviation), after, next)
      | (.ok (), after) => converse peer limit after next
    | (.unreadable, next) => (some unreadableFault, console, next)
    | (.silence, next) => (some (.silence limit), console, next)
    | (.closed, next) => (none, console, next)
termination_by (console.channel.toGo, peer.ahead state)
decreasing_by
  · exact Prod.Lex.left _ _ (console.toGo_readLine_lt _h)
  · have hle := console.toGo_printLine_le text
    rw [_h] at hle
    rcases Nat.lt_or_eq_of_le hle with hlt | heq
    · exact Prod.Lex.left _ _ hlt
    · simp only at heq
      rw [heq]
      exact Prod.Lex.right _ (peer.ahead_receive_lt ‹_›)

/-- Passes on the lines that are left over, up to one that is no text or is refused. -/
def passOn (console : Console) : List (Option Text) → Option Fault × Console
  | [] => (none, console)
  | none :: _ => (some unreadableFault, console)
  | some text :: rest =>
    match console.printLine text with
    | (.error deviation, after) => (some (.deviation deviation), after)
    | (.ok (), after) => passOn after rest

/-- The seconds that a clock has left before it overflows: it counts them in a word with a sign, and
has run for a day. -/
def clockLimit : Nat := Nat.pow 2 63 - 86400

/-- Runs a process at a console, up to its exit. -/
def play (peer : Peer) (limit : Duration) (console : Console) : Ending × Console :=
  match peer.converse limit console peer.initial with
  | (some fault, after, _) => (.faulted fault, after)
  | (none, after, state) =>
    if limit.nanoseconds ≥ clockLimit * 1000000000 then
      (.panicked (some "overflow when adding duration to instant".toList), after)
    else
      match peer.close state with
      | (false, _) => (.faulted (.lingering limit), after)
      | (true, rest) =>
        match passOn after rest with
        | (some fault, last) => (.faulted fault, last)
        | (none, last) => (.returned, last)

end Peer

/-- A program that is started as a process, unless that fails. -/
def Program.ofPeer (name : Text) (limit : Duration) (start : List Text → Except Fault Peer) :
    Program :=
  ⟨name, fun arguments console ↦
    match start arguments with
    | .error fault => (.faulted fault, console)
    | .ok peer => peer.play limit console⟩

end Dialogue
