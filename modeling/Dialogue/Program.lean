import Dialogue.Behaviour

/-!
# Programs

A program has a name and can be started with arguments at a console, where it runs to its end. A
program that lives inside the harness is given by its behaviour (`ofBehaviour`); one that reads
again and again gets as many reads as the channel can serve, and one more that is refused
(`ofReads`), so that it never notices the bound.
-/

set_option autoImplicit false
set_option relaxedAutoImplicit false

namespace Dialogue

/-- Something that can be run against a script. -/
structure Program where
  name : Text
  /-- Runs the program with its arguments at a console. -/
  invoke : List Text → Console → Ending × Console

instance : Inhabited Program := ⟨[], fun _ console ↦ (.returned, console)⟩

namespace Program

/-- A program with the same behaviour whenever its arguments are the same. -/
def ofBehaviour (name : Text) (behaviour : List Text → Behaviour) : Program :=
  ⟨name, fun arguments console ↦ (behaviour arguments).run console⟩

/-- A program that reads again and again, given by its behaviour for every bound on its reads. -/
def ofReads (name : Text) (behaviour : List Text → Nat → Behaviour) : Program :=
  ⟨name, fun arguments console ↦
    (behaviour arguments (console.channel.linesLeft + 1)).run console⟩

/-- Prints back every line. -/
def echo : Program :=
  ofReads "echo".toList fun _ reads ↦ Behaviour.echo reads

/-- Answers from a table. -/
def table (name : Text) (replies : List (Text × Text)) (default : Text) : Program :=
  ofReads name fun arguments reads ↦ Behaviour.table replies default arguments reads

/-- Follows a list of commands. -/
def following (name : Text) (commands : List Behaviour.Command) : Program :=
  ofBehaviour name fun _ ↦ Behaviour.follow commands

end Program

end Dialogue
