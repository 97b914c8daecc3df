import Dialogue.Child.Basic
import Dialogue.Machine.Step

/-!
# Runs of a machine

The processes of a machine take turns (`goOn`). A turn ends when the process waits, or after a
number of steps if others want to go on. Once all processes have waited and nothing has happened
since, the machine itself waits, for text at its terminal or for the first of the times that
processes wait for; if there is neither, it never goes on. So a machine is a child of the harness
(`launch`): it prints what goes to its terminal, and tells when no process is left that could read
there or print.

A machine has fuel for its steps and room for its output and its traffic, and rests when one of
them is used up.
-/

set_option autoImplicit false
set_option relaxedAutoImplicit false

namespace Dialogue.Machine

open Dialogue.Shell

/-- How far the processes have come in taking turns. -/
structure Round where
  /-- How many steps the process at work may still take. -/
  slice : Nat
  /-- What those processes wait for that had their turn since something happened. -/
  needs : List Need
  /-- How many characters may still be printed. -/
  room : Nat
  /-- The number of the first process. -/
  first : Nat
  /-- Whether some process could read at the terminal when that was looked at. -/
  listens : Bool
  /-- Whether some process could print when that was looked at. -/
  speaks : Bool
  deriving Repr, DecidableEq, Inhabited

namespace Round

/-- How many steps a turn may take. -/
def sliceLength : Nat := 10000

/-- How many characters a machine prints at most. -/
def outputLimit : Nat := 1048576

/-- The round in which a process starts. -/
def start (first : Nat) : Round :=
  ⟨sliceLength, [], outputLimit, first, true, true⟩

/-- The round after a step, with which something has happened. -/
def afterStep (round : Round) : Round :=
  { round with slice := round.slice - 1, needs := [] }

/-- The round when the next process gets its turn. -/
def nextTurn (round : Round) : Round :=
  { round with slice := sliceLength }

/-- The first of the times that processes wait for. -/
def time? (round : Round) : Option Nat :=
  (round.needs.filterMap fun
    | .time time => some time
    | _ => none).min?

/-- Whether a process waits for text at the terminal. -/
def wantsText (round : Round) : Bool :=
  round.needs.contains .terminal

/-- The round with the output less some characters. -/
def spend (round : Round) (count : Nat) : Round :=
  { round with room := round.room - count }

end Round

/-- Tells if there is no process left that could read at the terminal, or print. -/
def tellClosed (round : Round) (process : Process) (machine : Machine) (next : Round → Child) :
    Child :=
  let listens := round.listens && machine.isHeld process .terminalInput
  let speaks := round.speaks && machine.isHeld process .terminalOutput
  let after := { round with listens := listens, speaks := speaks }
  let told : Unit → Child := fun () ↦
    if round.speaks && !speaks then .closesOutput fun () ↦ next after else next after
  if round.listens && !listens then .closesInput told else told ()

/-- Puts what came from the terminal into the machine. -/
def hear (machine : Machine) (heard : Heard) (now : Nat) : Machine :=
  match heard with
  | .text text => { machine with terminal := Text.narrow text, now := now }
  | .finish => { machine with isTerminalDone := true, now := now }
  | .nothing => { machine with now := now }

/-- How many characters are moved through files and pipes at most. -/
def trafficLimit : Nat := 67108864

/-- The processes of a machine go on, beginning with the one at work. -/
def goOn (round : Round) (process : Process) (machine : Machine) : Nat → Child
  | 0 => tellClosed round process machine fun _ ↦ .hangs
  | fuel + 1 =>
    let pass (round : Round) (process : Process) (machine : Machine) : Child :=
      match machine.processes with
      | next :: rest =>
        goOn round.nextTurn next { machine with processes := rest ++ [process] } fuel
      | [] => goOn round.nextTurn process machine fuel
    match step process machine with
    | .goesOn process machine =>
      if trafficLimit < machine.traffic then tellClosed round process machine fun _ ↦ .hangs
      else if round.slice = 0 then pass round.afterStep process machine
      else goOn round.afterStep process machine fuel
    | .prints text process machine =>
      .prints (Text.toBytes text) fun () ↦
        let round := round.spend text.length
        if round.room = 0 then .hangs else goOn round.afterStep process machine fuel
    | .ends status machine =>
      let machine := { machine with ended := (process.number, status) :: machine.ended }
      match machine.processes with
      | [] => .exits
      | next :: rest =>
        let others : Unit → Child := fun () ↦
          goOn round.afterStep.nextTurn next { machine with processes := rest } fuel
        if process.number = round.first then .departs others else others ()
    | .waits need process machine =>
      let round := { round with needs := need :: round.needs }
      if round.needs.length ≤ machine.processes.length then pass round process machine
      else
        tellClosed round process machine fun after ↦
          if round.wantsText then
            .reads round.time? fun heard now ↦
              goOn after.afterStep process (machine.hear heard now) fuel
          else
            match round.time? with
            | some time => .sleeps time fun () ↦
              goOn after.afterStep process { machine with now := max machine.now time } fuel
            | none => .hangs

/-- How many steps a machine takes at most. -/
def stepLimit : Nat := 4000000

/-- The number of the process that the harness starts. -/
def firstNumber : Nat := 1000

/-- A machine with the files of a host, in which nothing happens yet. Its streams lead to the
terminal, but diagnostics are lost. -/
def ofHost (host : Host) : Machine where
  tree := host.tree
  endpoints := #[.terminalInput, .terminalOutput, .nowhere]
  pipes := #[]
  processes := []
  ended := []
  nextNumber := firstNumber
  now := 0
  terminal := []
  isTerminalDone := false
  signals := []
  shells := []
  traffic := 0

/-- The variables that every process gets from the harness. -/
def environmentOf (host : Host) : List (Text × Text) :=
  [("HOME".toList, "/root".toList),
    ("PATH".toList, Text.joinWith [':'] (host.searchPath.map fun path ↦ Text.narrow path.text))]

/-- A tool that is started on a host, by some name and with some arguments. -/
def launch (host : Host) (tool : Tool) (name : Text) (arguments : List Text) : Child :=
  let environment := environmentOf host
  let number := firstNumber - 1
  let process : Process :=
    { number := number
      parent := number
      streams := [(0, 0), (1, 1), (2, 2)]
      state := firstState name environment host.workingDirectory number number 18
      tested := false
      tasks := [] }
  let (process, machine) := startTool tool name arguments environment process (ofHost host)
  goOn (.start number) process machine stepLimit

end Dialogue.Machine
