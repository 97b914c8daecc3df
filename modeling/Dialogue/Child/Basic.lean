import Dialogue.Text.Basic

/-!
# Children

A child is what a process does, together with the processes it has started, as a tree: it prints,
waits for text or for some time, closes what it listens or speaks to, and in the end exits or hangs.
What it does after it has waited may depend on what came and when; no text comes once the sender has
stopped. What follows a step is worked out when the step is done, so that a child may be far larger
than what is ever seen of it. Times are in nanoseconds since the child was started.
-/

set_option autoImplicit false
set_option relaxedAutoImplicit false

namespace Dialogue

/-- What comes to a child that waits. -/
inductive Heard where
  /-- All the text that has been sent and not yet read. -/
  | text (text : Text)
  /-- No more text will be sent. -/
  | finish
  /-- Nothing, for as long as the child waits. -/
  | nothing
  deriving Repr, DecidableEq, Inhabited

/-- What a process does. -/
inductive Child where
  | exits
  /-- It never does anything again. -/
  | hangs
  | prints (bytes : List UInt8) (next : Unit → Child)
  /-- Waits for text, up to a time if there is one. With what comes, the time is told. -/
  | reads (limit : Option Nat) (next : Heard → Nat → Child)
  /-- Waits until a time. -/
  | sleeps (limit : Nat) (next : Unit → Child)
  | closesInput (next : Unit → Child)
  | closesOutput (next : Unit → Child)
  /-- The process exits, but others that it has started go on. -/
  | departs (next : Unit → Child)

instance : Inhabited Child := ⟨.exits⟩

end Dialogue
