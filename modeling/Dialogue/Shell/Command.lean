import Dialogue.Text.Basic

/-!
# Shell commands

A shell command is a simple one, which names a program or assigns to variables, or is built from
others: in sequence, under a condition, in a loop, or with its output passed on. A word of a command
is a list of parts, some of which stand for themselves and some for the value of a parameter, of an
expression, or for the output of a command. A shell is not interested in characters: its texts have
one for each byte.
-/

set_option autoImplicit false
set_option relaxedAutoImplicit false

namespace Dialogue.Shell

/-- What is put in place of a parameter, or how its value is changed. -/
inductive Change where
  /-- Another text, if the parameter has no value. -/
  | default
  /-- Another text, which becomes the value, if the parameter has none. -/
  | assign
  /-- Another text, if the parameter has a value. -/
  | alternative
  /-- An error, if the parameter has no value. -/
  | demand
  /-- The value without the shortest or the longest match at its start. -/
  | dropStart (longest : Bool)
  /-- The value without the shortest or the longest match at its end. -/
  | dropEnd (longest : Bool)
  deriving Repr, DecidableEq, Inhabited

/-- Where input comes from or output goes to. -/
inductive Direction where
  | read
  | write
  /-- Into a file that may be there already, whatever the options say. -/
  | overwrite
  | append
  | readWrite
  /-- The same as another stream, or nowhere. -/
  | duplicate
  /-- From a text that is given. -/
  | document
  deriving Repr, DecidableEq, Inhabited

mutual

/-- A part of a word. -/
inductive Part where
  | literal (text : Text)
  | quoted (text : Text)
  /-- The home of a user; without a name, that of the shell's own user. -/
  | home (user : Text)
  | parameter (name : Text) (quoted : Bool)
  /-- The value of a parameter, changed by a word; an empty value may count as none. -/
  | changed (name : Text) (change : Change) (emptyToo : Bool) (word : List Part) (quoted : Bool)
  /-- How many characters the value of a parameter has. -/
  | size (name : Text) (quoted : Bool)
  | output (command : Command) (quoted : Bool)
  | arithmetic (expression : List Part) (quoted : Bool)
  /-- What stands for nothing and cannot be expanded. -/
  | senseless

/-- A change of a stream, for one command. -/
inductive Redirection where
  | mk (stream : Nat) (direction : Direction) (target : List Part)

/-- A command. Where it matters to complaints, the number of its line is kept. -/
inductive Command where
  | nothing
  | simple (line : Nat) (assignments : List (Text × List Part)) (words : List (List Part))
      (redirections : List Redirection)
  | sequence (first second : Command)
  | both (first second : Command)
  | either (first second : Command)
  | negation (command : Command)
  | pipeline (commands : List Command)
  | background (command : Command)
  | redirected (line : Nat) (command : Command) (redirections : List Redirection)
  | subshell (command : Command)
  | choice (condition positive negative : Command)
  | loop (negated : Bool) (condition body : Command)
  /-- A loop over words. -/
  | each (line : Nat) (name : Text) (words : List (List Part)) (body : Command)
  | cases (line : Nat) (word : List Part) (branches : List (List (List Part) × Command))
  | function (name : Text) (body : Command)

end

instance : Inhabited Part := ⟨.literal []⟩

instance : Inhabited Redirection := ⟨.mk 0 .read []⟩

instance : Inhabited Command := ⟨.nothing⟩

/-- A word. -/
abbrev Word := List Part

/-- Commands one after the other. -/
def Command.andThen : Command → Command → Command
  | .nothing, second => second
  | first, .nothing => first
  | first, second => .sequence first second

end Dialogue.Shell
