import Dialogue.Channel.Deviation
import Dialogue.Text.Duration

/-!
# Faults of a program

A run ends with a fault if the program reports one, breaks down, or keeps its harness waiting. A
fault that stands for a deviation from the script, directly or as the cause of a failed transfer, is
reported as that deviation.
-/

set_option autoImplicit false
set_option relaxedAutoImplicit false

namespace Dialogue

/-- Why a transfer failed. -/
inductive TransferError where
  /-- The channel refused it. -/
  | deviation (deviation : Deviation)
  | other (description : Text)
  deriving Repr, DecidableEq, Inhabited

/-- The wording of a failed transfer. -/
def TransferError.message : TransferError → Text
  | deviation d => d.message
  | other description => description

/-- How a run of a program went wrong. -/
inductive Fault where
  /-- The program departed from the script. -/
  | deviation (deviation : Deviation)
  /-- A transfer from or to the program failed. -/
  | transfer (error : TransferError)
  /-- The program broke down. -/
  | panic (message : Text)
  /-- The program was silent for too long. -/
  | silence (limit : Duration)
  /-- The program went on for too long after its script. -/
  | lingering (limit : Duration)
  /-- The program itself says what went wrong. -/
  | reported (message : Text)
  deriving Repr, DecidableEq, Inhabited

namespace Fault

/-- The wording of a fault. -/
def message : Fault → Text
  | deviation d => d.message
  | transfer error => "I/O error: ".toList ++ error.message
  | panic text => "program panicked: ".toList ++ text
  | silence limit => "program produced no output within ".toList ++ limit.text
  | lingering limit =>
    "program did not exit within ".toList ++ limit.text ++ " of the end of its script".toList
  | reported text => text

/-- The deviation that a fault stands for. -/
def deviation? : Fault → Option Deviation
  | deviation d => some d
  | transfer (.deviation d) => some d
  | _ => none

end Fault

end Dialogue
