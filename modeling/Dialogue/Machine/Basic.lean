import Dialogue.Machine.Process

/-!
# Machines

A machine has files, processes that take turns, the endpoints of their streams, and a terminal whose
input comes from outside. A pipe comes to an end when no process can write to it any more, and
writing to one that nobody can read is an error (`Machine.write`, `Machine.read`); so what a process
can do depends on what all others hold. A process that cannot go on says what it waits for.
-/

set_option autoImplicit false
set_option relaxedAutoImplicit false

namespace Dialogue

open Dialogue.Shell

/-- The files, the processes and the terminal of a system. -/
structure Machine where
  tree : Tree
  endpoints : Array Machine.Endpoint
  pipes : Array Machine.Pipe
  /-- The processes that are not at work, the next one first. -/
  processes : List Machine.Process
  /-- The processes that have ended, with their status, the last one first. -/
  ended : List (Nat × Nat)
  /-- The number of the next process. -/
  nextNumber : Nat
  /-- The time since the start, in nanoseconds. -/
  now : Nat
  /-- What came from the terminal and was not yet read. -/
  terminal : Text
  /-- Whether nothing more comes from the terminal. -/
  isTerminalDone : Bool
  /-- The signals that were sent, with the processes they were sent to. -/
  signals : List (Nat × Nat)
  /-- The numbers of the shells that were started within a process, each with that of the process.
  -/
  shells : List (Nat × Nat)
  /-- How many characters have been moved through files and pipes. -/
  traffic : Nat
  deriving Inhabited

namespace Machine

/-! ### Files -/

/-- The files as they are seen from a directory. -/
def host (machine : Machine) (directory : Location) : Host :=
  ⟨machine.tree, directory, [], none⟩

/-- The files as a process sees them, with the directories in which it looks for commands. -/
def hostOf (machine : Machine) (process : Process) : Host :=
  let directories := (process.state.value? "PATH".toList).getD []
  { machine.host process.state.directory with
    searchPath := (Text.splitOn ':' directories).map fun directory ↦
      ⟨if directory.isEmpty then ['.'] else Text.widen directory⟩ }

/-- The content of the file at a place. -/
def contentAt (machine : Machine) (place : Location) : List UInt8 :=
  match machine.tree.find? place with
  | some (.file content _) => content
  | _ => []

/-- The machine with another content of the file at a place. -/
def putContent (machine : Machine) (place : Location) (content : List UInt8) : Machine :=
  let isExecutable := match machine.tree.find? place with
    | some (.file _ isExecutable) => isExecutable
    | _ => false
  { machine with tree := Tree.put (.file content isExecutable) machine.tree place }

/-! ### Endpoints -/

/-- The machine with one more endpoint, and its number. -/
def addEndpoint (machine : Machine) (endpoint : Endpoint) : Nat × Machine :=
  (machine.endpoints.size, { machine with endpoints := machine.endpoints.push endpoint })

/-- The machine with one more pipe: the numbers of the endpoints from which it is read and to which
it is written, and that of the pipe. -/
def addPipe (machine : Machine) (pipe : Pipe) : (Nat × Nat × Nat) × Machine :=
  let number := machine.pipes.size
  let machine := { machine with pipes := machine.pipes.push pipe }
  let (reading, machine) := machine.addEndpoint (.pipeOutput number)
  let (writing, machine) := machine.addEndpoint (.pipeInput number)
  ((reading, writing, number), machine)

/-- What a stream of a process leads to. -/
def endpointOf? (machine : Machine) (process : Process) (stream : Nat) :
    Option (Nat × Endpoint) := do
  let number ← process.streams.lookup stream
  let endpoint ← machine.endpoints[number]?
  return (number, endpoint)

/-- Whether a process holds an endpoint. -/
def holds (machine : Machine) (endpoint : Endpoint) (process : Process) : Bool :=
  process.held.any fun number ↦ machine.endpoints[number]? == some endpoint

/-- Whether some process holds an endpoint: the one at work or another one. -/
def isHeld (machine : Machine) (process : Process) (endpoint : Endpoint) : Bool :=
  machine.holds endpoint process || machine.processes.any (machine.holds endpoint)

/-- The place of a special file, and the stream that it stands for. -/
def deviceStream? (place : Location) : Option Nat :=
  match place.map String.ofList with
  | ["dev", "stdin"] => some 0
  | ["dev", "stdout"] => some 1
  | ["dev", "stderr"] => some 2
  | ["dev", "fd", digits] => Text.toNat? 10 digits.toList
  | _ => none

/-- Opens a file for a process: the number of the endpoint. -/
def openFile (machine : Machine) (process : Process) (path : Text) (access : Access) :
    Except FileError (Nat × Machine) := do
  let host := machine.host process.state.directory
  let path : Path := ⟨Text.widen path⟩
  let place ← match access with
    | .read => host.resolve path
    | _ => if host.isDirectory path then .error .isADirectory else host.placeForFile path
  let opened (machine : Machine) : Except FileError (Nat × Machine) :=
    .ok (machine.addEndpoint
      (.file place 0 ⟨access == .read || access == .readWrite, access != .read, access == .append⟩))
  match deviceStream? place with
  | some stream =>
    match process.streams.lookup stream with
    | some number => return (number, machine)
    | none => .error .notFound
  | none =>
    if place == ["dev".toList, "null".toList] then return machine.addEndpoint .nowhere
    else
      match machine.tree.find? place, access with
      | none, .read => .error .notFound
      | none, _ => opened (machine.putContent place [])
      | some (.directory _), _ => return machine.addEndpoint .directory
      | some (.file _ _), .write => opened (machine.putContent place [])
      | some (.file _ _), _ => opened machine

/-! ### Writing and reading -/

/-- What comes of writing. -/
inductive Written where
  | done (machine : Machine)
  /-- The text goes to the terminal. -/
  | shown
  /-- There is no room yet. -/
  | blocked
  | refused (error : FileError)

/-- Writes a text to a stream of a process. -/
def write (machine : Machine) (process : Process) (stream : Nat) (text : Text) : Written :=
  let machine := { machine with traffic := machine.traffic + text.length }
  match machine.endpointOf? process stream with
  | none => .refused .noStream
  | some (number, endpoint) =>
    match endpoint with
    | .terminalOutput => .shown
    | .nowhere => .done machine
    | .file place position usage =>
      if !usage.writes then .refused .noStream
      else
        let content := machine.contentAt place
        let position := if usage.appends then content.length else position
        let machine := machine.putContent place (overwrite content position (Text.toBytes text))
        .done { machine with
          endpoints := machine.endpoints.setIfInBounds number
            (.file place (position + text.length) usage) }
    | .pipeInput pipe =>
      if !machine.isHeld process (.pipeOutput pipe) then .refused .broken
      else
        match machine.pipes[pipe]? with
        | none => .refused .broken
        | some content =>
          if content.isFull then .blocked
          else .done { machine with
            pipes := machine.pipes.setIfInBounds pipe (content.push text) }
    | .terminalInput | .directory | .pipeOutput _ => .refused .noStream

/-- What comes of reading. -/
inductive Taken where
  | text (text : Text) (machine : Machine)
  | finish
  /-- Nothing is there yet, and it may come from the terminal or from elsewhere. -/
  | blocked (onTerminal : Bool)
  | refused (error : FileError)

/-- Reads what is there from a stream of a process, or no more than a line of it. -/
def read (machine : Machine) (process : Process) (stream : Nat) (line : Bool) : Taken :=
  match machine.endpointOf? process stream with
  | none => .refused .noStream
  | some (number, endpoint) =>
    match endpoint with
    | .terminalInput =>
      if machine.terminal.isEmpty then
        if machine.isTerminalDone then .finish else .blocked true
      else
        let text := if line then
            machine.terminal.take ((machine.terminal.takeWhile (· != '\n')).length + 1)
          else machine.terminal
        .text text { machine with terminal := machine.terminal.drop text.length }
    | .nowhere => .finish
    | .directory => .refused .isADirectory
    | .file place position usage =>
      if !usage.reads then .refused .noStream
      else
        let bytes := (machine.contentAt place).drop position
        let bytes := if line then bytes.take ((bytes.takeWhile (· != 10)).length + 1) else bytes
        let text := Text.ofBytes bytes
        if text.isEmpty then .finish
        else .text text { machine with
          endpoints := machine.endpoints.setIfInBounds number
            (.file place (position + text.length) usage) }
    | .pipeOutput pipe =>
      match machine.pipes[pipe]? with
      | none => .finish
      | some content =>
        if content.size = 0 then
          if machine.isHeld process (.pipeInput pipe) then .blocked false else .finish
        else
          let (text, rest) := if line then content.takeLine else content.take
          .text text { machine with pipes := machine.pipes.setIfInBounds pipe rest }
    | .terminalOutput | .pipeInput _ => .refused .noStream

/-- Gives back the last characters that a process has read from a stream, if it is a file. -/
def giveBack (machine : Machine) (process : Process) (stream count : Nat) : Machine :=
  match machine.endpointOf? process stream with
  | some (number, .file place position usage) =>
    { machine with
      endpoints := machine.endpoints.setIfInBounds number (.file place (position - count) usage) }
  | _ => machine

/-- How large the file is that a stream of a process leads to, if it is one. -/
def fileSize? (machine : Machine) (process : Process) (stream : Nat) : Option Nat :=
  match machine.endpointOf? process stream with
  | some (_, .file place _ _) => some (machine.contentAt place).length
  | _ => none

/-! ### Processes -/

/-- The machine with one more process, and its number. -/
def spawn (machine : Machine) (process : Process) : Nat × Machine :=
  let number := machine.nextNumber
  (number, { machine with
    processes := machine.processes ++ [{ process with number := number }]
    nextNumber := number + 1 })

/-- The status with which a process has ended. -/
def statusOf? (machine : Machine) (number : Nat) : Option Nat :=
  machine.ended.lookup number

/-- The first signal that was sent to a process, and the machine without it. -/
def takeSignal? (machine : Machine) (number : Nat) : Option (Nat × Machine) :=
  (machine.signals.find? fun (target, _) ↦ target == number).map fun sent ↦
    (sent.2, { machine with signals := machine.signals.erase sent })

end Machine

end Dialogue
