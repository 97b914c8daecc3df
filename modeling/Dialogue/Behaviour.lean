import Dialogue.Console
import Dialogue.Fault

/-!
# Behaviours

A behaviour is what a program does at its console, as a tree: it ends, or it does something and goes
on in a way that may depend on the answer. A program that would go on for ever has a behaviour for
every number of lines that it can be asked to read, which a script bounds.
-/

set_option autoImplicit false
set_option relaxedAutoImplicit false

namespace Dialogue

/-- How a program ends. -/
inductive Ending where
  /-- By itself, and content. -/
  | returned
  /-- With a fault that it reports. -/
  | faulted (fault : Fault)
  /-- By breaking down, with a message if it has one. -/
  | panicked (message : Option Text)
  deriving Repr, DecidableEq, Inhabited

/-- What a program does at its console. -/
inductive Behaviour where
  | stop (ending : Ending)
  | act (action : Console.Action) (next : Console.Reply → Behaviour)

instance : Inhabited Behaviour := ⟨.stop .returned⟩

namespace Behaviour

/-- Runs a behaviour at a console. -/
def run : Behaviour → Console → Ending × Console
  | stop ending, console => (ending, console)
  | act action next, console =>
    let (reply, after) := console.perform action
    (next reply).run after

/-! ### Programs that answer line by line -/

/-- Prints lines one after the other, and ends with the first that is refused. -/
def printLines (next : Behaviour) : List Text → Behaviour
  | [] => next
  | line :: rest =>
    act (.printLine line) fun
      | .refused deviation => stop (.faulted (.deviation deviation))
      | _ => printLines next rest

/-- Reads a line, prints the answer to it and starts again, until the terminator is read or a
request is refused. The answer may depend on all lines read before, which `history` holds last line
first. It reads `reads` lines at most. -/
def answer (respond : List Text → Text → List Text) (history : List Text) : Nat → Behaviour
  | 0 => stop .returned
  | reads + 1 =>
    act .read fun
      | .line text =>
        if text = terminator then stop .returned
        else
          printLines (answer respond (text :: history) reads) (respond history text)
      | .refused deviation => stop (.faulted (.deviation deviation))
      | _ => stop .returned

/-- Prints every line that it reads. -/
def echo (reads : Nat) : Behaviour :=
  answer (fun _ line ↦ [line]) [] reads

/-! ### Programs that look up their answers -/

/-- A reply in which `$1`, `$2` and so on stand for the arguments of the program. -/
def fillIn (arguments : List Text) (reply : Text) : Text :=
  (arguments.zipIdx 1).foldl
    (fun text (argument, number) ↦ Text.replaceAll ('$' :: Text.ofNat number) argument text) reply

/-- Answers every line that it knows with the reply from a table, and any other line with the same
text. -/
def table (replies : List (Text × Text)) (default : Text) (arguments : List Text) (reads : Nat) :
    Behaviour :=
  answer (fun _ line ↦
    match replies.lookup line with
    | some reply => [fillIn arguments reply]
    | none => [default]) [] reads

/-! ### Programs that follow a list -/

/-- An item of a list that a program follows. A tolerant item goes on where it could end the
program. -/
inductive Command where
  | act (action : Console.Action) (tolerant : Bool)
  | fault (fault : Fault) (tolerant : Bool)
  | stop (ending : Ending)
  deriving Repr, DecidableEq, Inhabited

/-- The fault that a refused action makes. Bytes and flushes travel as transfers. -/
def faultOf (action : Console.Action) (deviation : Deviation) : Fault :=
  match action with
  | .write _ | .offer _ | .flush => .transfer (.deviation deviation)
  | _ => .deviation deviation

/-- Follows a list of commands to its end. -/
def follow : List Command → Behaviour
  | [] => stop .returned
  | .stop ending :: _ => stop ending
  | .fault fault tolerant :: rest => if tolerant then follow rest else stop (.faulted fault)
  | .act action tolerant :: rest =>
    act action fun
      | .refused deviation =>
        if tolerant then follow rest else stop (.faulted (faultOf action deviation))
      | _ => follow rest

end Behaviour

end Dialogue
