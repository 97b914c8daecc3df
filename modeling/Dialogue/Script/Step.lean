import Dialogue.Text.Basic
import Dialogue.Text.LowerCase

/-!
# Steps of a script

A script is a dialogue seen from the terminal: lines that are typed into a program and outputs that
the program must give in between. An output is compared with its pattern under one of three modes.
-/

set_option autoImplicit false
set_option relaxedAutoImplicit false

namespace Dialogue

/-! ### Comparing outputs -/

/-- How an output is compared with a pattern. -/
inductive MatchMode where
  /-- The output is the pattern. -/
  | exact
  /-- The output is the pattern up to the case of its letters. -/
  | caseInsensitive
  /-- The output reports an error, whatever the pattern is. -/
  | errorSentinel
  deriving Repr, DecidableEq, Inhabited

/-- The pattern that stands for any output that reports an error. -/
def errorSentinel : Text := "00err".toList

/-- How an output that reports an error begins. -/
def errorOpening : Text := "Error".toList

/-- Whether an output satisfies a pattern under a mode. -/
def MatchMode.accepts (mode : MatchMode) (pattern actual : Text) : Bool :=
  match mode with
  | .exact => actual == pattern
  | .caseInsensitive => actual.lowerCase == pattern.lowerCase
  | .errorSentinel => errorOpening.isPrefixOf actual

/-! ### Steps -/

/-- One event of a dialogue. -/
inductive Step where
  /-- A line is typed into the program. -/
  | input (line : Text)
  /-- The program gives an output that satisfies the pattern. -/
  | expect (pattern : Text) (mode : MatchMode)
  deriving Repr, DecidableEq, Inhabited

namespace Step

/-- Whether a step types a line. -/
def isInput : Step → Bool
  | input _ => true
  | expect _ _ => false

/-- Whether a step expects an output. -/
def isExpect (step : Step) : Bool :=
  !step.isInput

/-- An expected output as a script would write it, without quotes. -/
def expectation? : Step → Option Text
  | input _ => none
  | expect pattern .exact => some pattern
  | expect pattern .caseInsensitive => some ("!C".toList ++ pattern)
  | expect _ .errorSentinel => some errorSentinel

end Step

end Dialogue
