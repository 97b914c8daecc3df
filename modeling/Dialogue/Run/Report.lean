import Dialogue.Fault
import Dialogue.Script.Basic
import Dialogue.Files.Path

/-!
# Reports

What is said about a run of one script, and about a whole suite of scripts: which outputs were
matched, how the run ended and what was said in it; and for a suite also which files were no
scripts.
-/

set_option autoImplicit false
set_option relaxedAutoImplicit false

namespace Dialogue

/-! ### One script -/

/-- The kinds of failure. -/
inductive FailureKind where
  | scriptFormat
  | protocolViolation
  | expectationMismatch
  | incompleteRun
  | runtimeFault
  deriving Repr, DecidableEq, Inhabited

/-- Why a script failed. -/
structure Failure where
  kind : FailureKind
  message : Text
  /-- What was expected, if something else came. -/
  expected : Option Text
  /-- What came, if something else was expected. -/
  actual : Option Text
  deriving Repr, DecidableEq, Inhabited

namespace Failure

/-- The failure that a deviation is. -/
def ofDeviation (deviation : Deviation) : Failure :=
  match deviation with
  | .violation _ => ⟨.protocolViolation, deviation.message, none, none⟩
  | .mismatch expected actual =>
    ⟨.expectationMismatch, deviation.message, some expected, some actual⟩
  | .incomplete _ => ⟨.incompleteRun, deviation.message, none, none⟩

/-- The failure that a fault is: that of the deviation that it stands for, if it stands for one. -/
def ofFault (fault : Fault) : Failure :=
  match fault.deviation? with
  | some deviation => ofDeviation deviation
  | none => ⟨.runtimeFault, fault.message, none, none⟩

end Failure

/-- How a run of a script ended. -/
inductive Outcome where
  | passed
  | failed (failure : Failure)
  deriving Repr, DecidableEq, Inhabited

/-- What is said about a run of a script. -/
structure Report where
  name : Text
  path : Path
  arguments : List Text
  inputs : Nat
  outputs : Nat
  /-- How many outputs were as expected before the run ended. -/
  outputsMatched : Nat
  outcome : Outcome
  /-- The accepted outputs and the notes, in their order. -/
  transcript : Text
  /-- Where the transcript was stored, if it was. -/
  logPath : Option Path
  deriving Repr, DecidableEq, Inhabited

namespace Report

/-- Whether the script passed. -/
def passed (report : Report) : Bool :=
  report.outcome == .passed

/-- Why the script failed, if it did. -/
def failure? (report : Report) : Option Failure :=
  match report.outcome with
  | .passed => none
  | .failed failure => some failure

end Report

/-! ### A suite -/

/-- A file that is no script. -/
structure Skipped where
  name : Text
  path : Path
  reason : Text
  deriving Repr, DecidableEq, Inhabited

/-- What is said about a suite of scripts. -/
structure Summary where
  reports : List Report
  skipped : List Skipped
  deriving Repr, DecidableEq, Inhabited

/-- How the harness ends. -/
inductive ExitStatus where
  /-- Every script passed. -/
  | success
  /-- A script failed, or a file was no script. -/
  | failures
  /-- No script was run. -/
  | setupFailure
  deriving Repr, DecidableEq, Inhabited

/-- The number that an exit status is reported as. -/
def ExitStatus.code : ExitStatus → Nat
  | success => 0
  | failures => 1
  | setupFailure => 2

namespace Summary

/-- How many scripts passed. -/
def passed (summary : Summary) : Nat :=
  summary.reports.countP Report.passed

/-- How many scripts failed. -/
def failed (summary : Summary) : Nat :=
  summary.reports.length - summary.passed

/-- Whether every file was a script and every script passed. -/
def allPassed (summary : Summary) : Bool :=
  summary.failed == 0 && summary.skipped.isEmpty

/-- The exit status that a suite calls for. -/
def exitStatus (summary : Summary) : ExitStatus :=
  if summary.allPassed then .success else .failures

end Summary

end Dialogue
