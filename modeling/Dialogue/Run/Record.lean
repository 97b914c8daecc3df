import Dialogue.Json.Value
import Dialogue.Run.Report

/-!
# Reports for machines

What is said about a suite as one value: the reports in the order of the runs, and the files that
were skipped. What does not apply, such as the log of a run that has none, is left out.
-/

set_option autoImplicit false
set_option relaxedAutoImplicit false

namespace Dialogue

/-- A member whose value is a text. -/
def textMember (name : String) (text : Text) : Text × Json.Value :=
  (name.toList, .text text)

/-- A member whose value is a number. -/
def numberMember (name : String) (n : Nat) : Text × Json.Value :=
  (name.toList, .number n)

/-- The name of a kind of failure. -/
def FailureKind.name : FailureKind → Text
  | scriptFormat => "script_format".toList
  | protocolViolation => "protocol_violation".toList
  | expectationMismatch => "expectation_mismatch".toList
  | incompleteRun => "incomplete_run".toList
  | runtimeFault => "runtime_fault".toList

/-- An outcome as a value. -/
def Outcome.toJson : Outcome → Json.Value
  | passed => .object [textMember "status" "passed".toList]
  | failed failure => .object <|
    [textMember "status" "failed".toList, textMember "kind" failure.kind.name,
      textMember "message" failure.message]
    ++ (failure.expected.map (textMember "expected")).toList
    ++ (failure.actual.map (textMember "actual")).toList

/-- A report as a value. -/
def Report.toJson (report : Report) : Json.Value :=
  .object <|
    [textMember "name" report.name, textMember "path" report.path.text,
      ("args".toList, .list (report.arguments.map .text)),
      numberMember "inputs" report.inputs, numberMember "outputs" report.outputs,
      numberMember "outputs_matched" report.outputsMatched,
      ("outcome".toList, report.outcome.toJson), textMember "transcript" report.transcript]
    ++ (report.logPath.map fun path ↦ textMember "log_path" path.text).toList

/-- A skipped file as a value. -/
def Skipped.toJson (skipped : Skipped) : Json.Value :=
  .object [textMember "name" skipped.name, textMember "path" skipped.path.text,
    textMember "reason" skipped.reason]

/-- What is said about a suite as a value. -/
def Summary.toJson (summary : Summary) : Json.Value :=
  .object [("reports".toList, .list (summary.reports.map Report.toJson)),
    ("skipped".toList, .list (summary.skipped.map Skipped.toJson))]

end Dialogue
