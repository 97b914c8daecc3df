import Dialogue.Machine.Builtin.Basic

/-!
# Commands for signals and processes

The commands of the shell that say what is done when a signal comes, send signals, and wait for the
processes in the background: `trap`, `kill`, `wait`.
-/

set_option autoImplicit false
set_option relaxedAutoImplicit false

namespace Dialogue.Machine

open Dialogue.Shell

/-! ### What is done about signals -/

/-- The traps as commands that set them, in the order of their signals. -/
def trapList (traps : List (Text × Text)) : Text :=
  (Signal.names.zipIdx).flatMap fun (_, signal) ↦
    match traps.lookup (Signal.name signal) with
    | some action =>
      "trap -- ".toList ++ singleQuotes action ++ ' ' :: Signal.name signal ++ ['\n']
    | none => []

/-- Sets what is done about signals, up to one that there is not. -/
def setTraps (action : Option Text) (traps : List (Text × Text)) :
    List Text → List (Text × Text) × Option Text
  | [] => (traps, none)
  | word :: rest =>
    match Signal.ofText? word with
    | none => (traps, some word)
    | some signal =>
      let name := Signal.name signal
      let others := traps.filter fun (other, _) ↦ other ≠ name
      setTraps action (match action with
        | some text => (name, text) :: others
        | none => others) rest

/-- Says what is done about signals. -/
def Builtin.trap : Builtin :=
  .withOptions "trap" "" fun _ _ words process machine ↦
    let state := process.state
    match words with
    | [] => (process.print "trap" (trapList state.traps) 0, machine)
    | first :: rest =>
      let resets := rest.isEmpty || (Text.toNat? 10 first).isSome
      let action := if resets || first == ['-'] then none else some first
      let (traps, unknown) := setTraps action state.traps (if resets then words else rest)
      let process := process.withState { state with
        traps := traps, status := if unknown.isSome then 1 else 0 }
      (match unknown with
        | some word => process.push [.write 2 ("trap: ".toList ++ word ++ ": bad trap\n".toList)]
        | none => process, machine)

/-! ### Sending signals -/

/-- How signals are sent. -/
def killUsage : Text :=
  ("Usage: kill [-s sigspec | -signum | -sigspec] [pid | job]... or\n" ++
    "kill -l [exitstatus]").toList

/-- The command in the background that a word names by its place; the last one may go without. -/
def childOf (process : Process) (word : Text) : Except Text Background :=
  let children := process.state.children
  let child? := match word with
    | ['%'] | ['%', '%'] | ['%', '+'] => children.head?
    | ['%', '-'] => children[1]?
    | '%' :: digits =>
      (Text.toNat? 10 digits).bind fun n ↦ children.find? fun child ↦ child.place == n
    | _ => none
  match child? with
  | some child => .ok child
  | none => .error ("No such job: ".toList ++ word)

/-- The process that a word names: its number, or its place among those in the background. -/
def targetOf (process : Process) (word : Text) : Except Text Nat :=
  if word.head? == some '%' then (childOf process word).map Background.process
  else
    match Text.toNat? 10 word with
    | some number => .ok number
    | none => .error ("Illegal number: ".toList ++ word)

/-- Whether a process is there to be sent a signal. -/
def isThere (machine : Machine) (process : Process) (number : Nat) : Bool :=
  number == process.number || number == process.state.number
    || machine.processes.any (·.number == number)

/-- Sends a signal to some processes. -/
def sendSignal (signal : Nat) (strict : Bool) (words : List Text) (process : Process)
    (machine : Machine) : Process × Machine :=
  match words.mapM (targetOf process) with
  | .error message => (process.wrong strict "kill" message, machine)
  | .ok numbers =>
    let (there, missing) := numbers.partition (isThere machine process)
    let machine := if signal = 0 then machine
      else { machine with signals := machine.signals ++ there.map fun number ↦ (number, signal) }
    let process := process.ended (if missing.isEmpty then 0 else 1)
    (process.complainAll "kill" (missing.map fun _ ↦ "No such process\n".toList), machine)

/-- Sends signals. -/
def Builtin.kill : Builtin := fun strict words process machine ↦
  let usage : Process × Machine := (process.wrong strict "kill" killUsage, machine)
  let send (signal : Text) (words : List Text) : Process × Machine :=
    match Signal.ofText? signal with
    | none => (process.wrong strict "kill" ("Illegal option -".toList ++ signal.take 1), machine)
    | some number => if words.isEmpty then usage else sendSignal number strict words process machine
  match words with
  | [] => usage
  | ['-', 'l'] :: rest =>
    match rest with
    | [] => (process.print "kill" Signal.list 0, machine)
    | word :: _ =>
      match Text.toNat? 10 word with
      | none => (process.wrong strict "kill" ("Illegal number: ".toList ++ word), machine)
      | some n =>
        let signal := if n < 128 then n else n - 128
        if 0 < signal && signal < Signal.count then
          (process.print "kill" (Signal.name signal ++ ['\n']) 0, machine)
        else
          (process.wrong strict "kill"
            ("invalid signal number or exit status: ".toList ++ word), machine)
  | [['-', 's']] => (process.wrong strict "kill" "No arg for -s option".toList, machine)
  | ['-', 's'] :: signal :: rest =>
    if (Signal.ofText? signal).isSome then send signal rest
    else
      (process.wrong strict "kill" ("invalid signal number or name: ".toList ++ signal), machine)
  | ['-', '-'] :: rest => send "TERM".toList rest
  | ('-' :: c :: name) :: rest => send (c :: name) rest
  | words => send "TERM".toList words

/-! ### Waiting -/

/-- The process that has waited for some commands in the background. -/
def knowing (numbers : List Nat) (process : Process) : Process :=
  process.withState { process.state with
    children := process.state.children.map fun child ↦
      if numbers.contains child.process then { child with isKnown := true } else child }

/-- Waits for processes in the background. -/
def Builtin.wait : Builtin :=
  .withOptions "wait" "" fun _ strict words process machine ↦
    if words.isEmpty then
      let numbers := process.state.children.map Background.process
      ((knowing numbers process).push [.attend numbers false], machine)
    else
      match words.mapM (targetOf process) with
      | .error message => (process.wrong strict "wait" message, machine)
      | .ok numbers => ((knowing numbers process).push [.attend numbers true], machine)

/-! ### Telling about the background -/

/-- What has become of a process. -/
def conditionText (status : Option Nat) : Text :=
  match status with
  | none => "Running".toList
  | some 0 => "Done".toList
  | some n =>
    if 128 < n && n < 128 + Signal.count then Signal.description (n - 128)
    else "Done(".toList ++ Text.ofNat n ++ [')']

/-- The line about a command in the background, with a mark. -/
def childLine (machine : Machine) (mark : Char) (child : Background) : Text :=
  let front := '[' :: Text.ofNat child.place ++ [']', ' ', mark, ' ']
    ++ conditionText (machine.statusOf? child.process)
  front ++ List.replicate (33 - front.length) ' '
    ++ (List.replicate (child.parts - 1) " | ".toList).flatten ++ ['\n']

/-- The lines about commands in the background, the last one of which is the current one; one that
is told to have ended is forgotten, so that the one before it is the current one. -/
def childLines (machine : Machine) : List Background → List Background → Text
  | _, [] => []
  | kept, child :: rest =>
    let mark := match kept with
      | [] => '+'
      | [_] => '-'
      | _ => ' '
    let kept := if (machine.statusOf? child.process).isSome then kept else child :: kept
    childLine machine mark child ++ childLines machine kept rest

/-- Tells about the commands in the background. -/
def Builtin.jobs : Builtin :=
  .withOptions "jobs" "lp" fun options strict words process machine ↦
    let state := process.state
    let chosen := if words.isEmpty then .ok state.children else words.mapM (childOf process)
    match chosen with
    | .error message => (process.wrong strict "jobs" message, machine)
    | .ok children =>
      if options.any fun (c, _) ↦ c == 'p' then
        let text := children.flatMap fun child ↦ Text.ofNat child.process ++ ['\n']
        (process.print "jobs" text 0, machine)
      else
        let isOver (child : Background) : Bool :=
          children.contains child && (machine.statusOf? child.process).isSome
        let process := process.withState
          { state with children := state.children.filter fun child ↦ !isOver child }
        (process.print "jobs" (childLines machine [] children) 0, machine)

/-- Refuses to bring a command to the foreground or to let it go on, since commands in the
background cannot be stopped. -/
def Builtin.resume (name : String) : Builtin := fun strict words process machine ↦
  let message := match words with
    | [] =>
      if process.state.children.isEmpty then "No current job".toList
      else "job (null) not created under job control".toList
    | word :: _ =>
      match childOf process word with
      | .ok _ => "job ".toList ++ word ++ " not created under job control".toList
      | .error message => message
  (process.wrong strict name message, machine)

/-- Tells how long the shell and its commands have been at work, which is no time at all. -/
def Builtin.times : Builtin := fun _ _ process machine ↦
  let line := "0m0.000000s 0m0.000000s\n".toList
  (process.print "times" (line ++ line) 0, machine)

end Dialogue.Machine
