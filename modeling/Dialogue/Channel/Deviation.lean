import Dialogue.Text.Basic

/-!
# Deviations from a script

A program deviates from its script by speaking or listening out of turn, by giving an output that
does not satisfy the pattern that is due, or by ending while something is left of the script.
-/

set_option autoImplicit false
set_option relaxedAutoImplicit false

namespace Dialogue

/-- How a program acted out of turn. -/
inductive Violation where
  /-- It asked for a line while so many outputs were still to come. -/
  | readBeforeOutputs (missing : Nat)
  /-- It asked for a line after the last one. -/
  | readAfterTerminator
  /-- It gave an output while the input of that number was due. -/
  | wroteBeforeInput (chunk : Text) (number : Nat)
  /-- It gave an output after the last one that was expected. -/
  | wroteAfterEnd (chunk : Text)
  /-- It was found out by someone else, who says how. -/
  | reported (description : Text)
  deriving Repr, DecidableEq, Inhabited

/-- The wording of a violation. -/
def Violation.message : Violation → Text
  | readBeforeOutputs missing =>
    "expecting ".toList ++ Text.ofNat missing ++ " more output(s) but got call to read".toList
  | readAfterTerminator => "read after the terminator line was delivered".toList
  | wroteBeforeInput chunk number =>
    "wrote '".toList ++ chunk ++ "' while input ".toList ++ Text.ofNat number ++ " was due".toList
  | wroteAfterEnd chunk =>
    "wrote '".toList ++ chunk ++ "' after the end of the expected output".toList
  | reported description => description

/-- What is left of a script. -/
structure Pending where
  inputs : Nat
  outputs : Nat
  /-- The terminator line has not been read. -/
  terminator : Bool
  deriving Repr, DecidableEq, Inhabited

/-- The wording of what is left. -/
def Pending.message (pending : Pending) : Text :=
  let inputs := Text.ofNat pending.inputs ++ " more input(s)".toList
  let outputs := Text.ofNat pending.outputs ++ " more output(s)".toList
  match pending.inputs, pending.outputs with
  | 0, 0 =>
    if pending.terminator then "expected the program to read the terminator line".toList
    else "run incomplete".toList
  | _, 0 => "expected ".toList ++ inputs
  | 0, _ => "expected ".toList ++ outputs
  | _, _ => "expected ".toList ++ inputs ++ " and ".toList ++ outputs

/-- How a program departed from its script. -/
inductive Deviation where
  /-- It acted out of turn. -/
  | violation (violation : Violation)
  /-- It gave another output than the one that was expected. -/
  | mismatch (expected actual : Text)
  /-- It ended too early. -/
  | incomplete (pending : Pending)
  deriving Repr, DecidableEq, Inhabited

/-- The wording of a deviation. -/
def Deviation.message : Deviation → Text
  | violation v => "protocol violation: ".toList ++ v.message
  | mismatch expected actual =>
    "expected: ".toList ++ expected ++ ", actual: ".toList ++ actual
  | incomplete pending => pending.message

end Dialogue
