import Dialogue.Files.Host
import Dialogue.Text.Bytes

/-!
# Streams

A stream of a process leads to the terminal, to a file, into or out of a pipe, or nowhere. Several
streams may share one endpoint, and then also its position in a file. A pipe keeps what was written
until it is read; its content is a queue of texts (`Pipe.push`, `Pipe.take`).
-/

set_option autoImplicit false
set_option relaxedAutoImplicit false

namespace Dialogue.Machine

/-! ### Pipes -/

/-- What was written to a pipe and not yet read. -/
structure Pipe where
  front : Text
  /-- What follows the front, the last text first. -/
  back : List Text
  size : Nat
  /-- Whether a writer has to wait for the readers if the pipe is full. -/
  isBounded : Bool
  deriving Repr, DecidableEq, Inhabited

namespace Pipe

/-- A pipe with nothing in it. -/
def empty (isBounded : Bool) : Pipe := ⟨[], [], 0, isBounded⟩

/-- A pipe that holds a text already. -/
def holding (text : Text) : Pipe := ⟨text, [], text.length, false⟩

/-- The content of a pipe. -/
def content (pipe : Pipe) : Text :=
  pipe.front ++ pipe.back.reverse.flatten

/-- How much a pipe can hold. -/
def capacity : Nat := 65536

/-- Whether nothing more can be written to a pipe. -/
def isFull (pipe : Pipe) : Bool :=
  pipe.isBounded && capacity ≤ pipe.size

/-- The pipe with a text at its end. -/
def push (pipe : Pipe) (text : Text) : Pipe :=
  { pipe with back := text :: pipe.back, size := pipe.size + text.length }

/-- All that is in a pipe. -/
def take (pipe : Pipe) : Text × Pipe :=
  (pipe.content, { pipe with front := [], back := [], size := 0 })

/-- The first line in a pipe, up to its line break, or all there is if there is no line break. -/
def takeLine (pipe : Pipe) : Text × Pipe :=
  let content := pipe.content
  let line := content.takeWhile (· != '\n')
  match content.drop line.length with
  | [] => (content, { pipe with front := [], back := [], size := 0 })
  | _ :: rest =>
    (line ++ ['\n'], { pipe with front := rest, back := [], size := rest.length })

end Pipe

/-! ### Endpoints -/

/-- How a file is used. -/
structure Usage where
  reads : Bool
  writes : Bool
  /-- Whether everything is written at the end. -/
  appends : Bool
  deriving Repr, DecidableEq, Inhabited

/-- What a stream leads to. -/
inductive Endpoint where
  | terminalInput
  | terminalOutput
  /-- What is written there is lost, and there is nothing to be read. -/
  | nowhere
  | file (place : Location) (position : Nat) (usage : Usage)
  | directory
  | pipeOutput (pipe : Nat)
  | pipeInput (pipe : Nat)
  deriving Repr, DecidableEq, Inhabited

/-- The streams of a process: the number of the endpoint for each stream. -/
abbrev Streams := List (Nat × Nat)

/-- The streams without one of them. -/
def closeStream (stream : Nat) (streams : Streams) : Streams :=
  streams.filter fun (number, _) ↦ number ≠ stream

/-- The streams with one of them leading to an endpoint. -/
def setStream (stream endpoint : Nat) (streams : Streams) : Streams :=
  (stream, endpoint) :: closeStream stream streams

/-! ### Writing into a file -/

/-- A content with some bytes written at a position. A gap is filled with zeros. -/
def overwrite (content : List UInt8) (position : Nat) (bytes : List UInt8) : List UInt8 :=
  content.take position ++ List.replicate (position - content.length) 0 ++ bytes
    ++ content.drop (position + bytes.length)

end Dialogue.Machine
