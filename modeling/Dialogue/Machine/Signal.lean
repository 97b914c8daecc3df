import Dialogue.Text.Basic

/-!
# Signals

A signal has a number and a name. A process that does nothing about it is stopped for good by most
signals, and its status tells which one it was.
-/

set_option autoImplicit false
set_option relaxedAutoImplicit false

namespace Dialogue.Machine.Signal

/-- The names of the signals in the order of their numbers. The first one is not sent: it stands for
the end of a shell. -/
def names : List String :=
  ["EXIT", "HUP", "INT", "QUIT", "ILL", "TRAP", "ABRT", "BUS", "FPE", "KILL", "USR1", "SEGV",
    "USR2", "PIPE", "ALRM", "TERM", "16", "CHLD", "CONT", "STOP", "TSTP", "TTIN", "TTOU", "URG",
    "XCPU", "XFSZ", "VTALRM", "PROF", "WINCH", "IO", "PWR", "SYS"]

/-- The name of a signal. -/
def name (signal : Nat) : Text :=
  match names[signal]? with
  | some name => name.toList
  | none => Text.ofNat signal

/-- The signal that is called by a name or a number. -/
def ofText? (text : Text) : Option Nat :=
  match Text.toNat? 10 text with
  | some n => if n < 65 then some n else none
  | none =>
    let capital := text.map Char.toUpper
    (names.findIdx? fun name ↦ name.toList == capital)

/-- How many signals there are, with the one that is not sent. -/
def count : Nat := 65

/-- The names of all signals that are sent, and a zero in front of them, each on a line. Those
behind the ones with names of their own are counted from both ends of their range. -/
def list : Text :=
  let named := "0" :: names.drop 1
  let beyond := (List.range (count - names.length)).map fun n ↦
    if n < 2 then toString (names.length + n)
    else if n = 2 then "RTMIN"
    else if n ≤ 17 then "RTMIN+" ++ toString (n - 2)
    else if n = 32 then "RTMAX"
    else "RTMAX-" ++ toString (32 - n)
  (named ++ beyond).flatMap fun name ↦ name.toList ++ ['\n']

/-- What is said about a process that a signal has stopped. -/
def description (signal : Nat) : Text :=
  (match signal with
    | 1 => "Hangup"
    | 2 => "Interrupt"
    | 3 => "Quit"
    | 4 => "Illegal instruction"
    | 6 => "Aborted"
    | 8 => "Floating point exception"
    | 9 => "Killed"
    | 10 => "User defined signal 1"
    | 11 => "Segmentation fault"
    | 12 => "User defined signal 2"
    | 13 => "Broken pipe"
    | 14 => "Alarm clock"
    | 15 => "Terminated"
    | n => "Unknown signal " ++ toString n).toList

/-- The signal of a pipe that nobody reads. -/
def pipe : Nat := 13

/-- The signal that asks a process to end. -/
def term : Nat := 15

/-- The signal of a calculation that went wrong. -/
def calculation : Nat := 8

/-- Whether a process that does nothing about a signal goes on. -/
def isHarmless (signal : Nat) : Bool :=
  signal == 0 || signal == 17 || signal == 18 || signal == 23 || signal == 28

/-- Whether a process cannot do anything about a signal. -/
def isAbsolute (signal : Nat) : Bool :=
  signal == 9 || signal == 19

/-- The status of a process that a signal has stopped. -/
def status (signal : Nat) : Nat := 128 + signal

end Dialogue.Machine.Signal
