import Dialogue.Regex.Basic

/-!
# Programs for records

A program for `awk` is a list of rules and functions. A rule has a selection, which says for which
records it is meant, and a statement. There are no types: a variable holds a value or is an array,
whichever way it is used first.
-/

set_option autoImplicit false
set_option relaxedAutoImplicit false

namespace Dialogue.Tool.Awk

/-- An operation on numbers. -/
inductive Arithmetic where
  | add
  | subtract
  | multiply
  | divide
  | remainder
  | power
  deriving Repr, DecidableEq, Inhabited

/-- A comparison. -/
inductive Comparison where
  | less
  | lessEqual
  | equal
  | different
  | greater
  | greaterEqual
  deriving Repr, DecidableEq, Inhabited

/-- Where a line is read from. -/
inductive Source where
  /-- The input of the program. -/
  | input
  | file
  | command
  deriving Repr, DecidableEq, Inhabited

/-- What has a value. -/
inductive Expr where
  | number (value : Float)
  | text (value : Text)
  | pattern (pattern : Regex.Pattern)
  | named (name : Text)
  | field (index : Expr)
  | element (name : Text) (subscript : List Expr)
  | assign (operation : Option Arithmetic) (target value : Expr)
  /-- Adds one to a variable or takes one away; the value is the one before or behind that. -/
  | step (valueFirst up : Bool) (target : Expr)
  | arithmetic (operation : Arithmetic) (left right : Expr)
  | compare (comparison : Comparison) (left right : Expr)
  | join (left right : Expr)
  | isMatch (negated : Bool) (value pattern : Expr)
  | both (left right : Expr)
  | either (left right : Expr)
  | negation (inner : Expr)
  | minus (inner : Expr)
  | plus (inner : Expr)
  | choice (condition whenTrue whenFalse : Expr)
  | isIn (subscript : List Expr) (name : Text)
  | call (name : Text) (arguments : List Expr)
  | builtin (name : String) (arguments : List Expr)
  | readLine (source : Source) (place : Option Expr) (target : Option Expr)
  /-- Expressions in parentheses. -/
  | group (parts : List Expr)
  deriving Inhabited

/-- Where a line is printed to. -/
inductive Destination where
  | write
  | append
  | command
  deriving Repr, DecidableEq, Inhabited

/-- What is done. -/
inductive Statement where
  | value (expr : Expr)
  | print (arguments : List Expr) (place : Option (Destination × Expr))
  | printFormat (arguments : List Expr) (place : Option (Destination × Expr))
  | choice (condition : Expr) (whenTrue : Statement) (whenFalse : Option Statement)
  | loop (condition : Expr) (body : Statement)
  | loopOnce (body : Statement) (condition : Expr)
  | loopWith (start : Option Statement) (condition : Option Expr) (step : Option Statement)
      (body : Statement)
  | loopOver (name array : Text) (body : Statement)
  | block (statements : List Statement)
  | nextRecord
  | nextFile
  | exit (status : Option Expr)
  | give (value : Option Expr)
  | leave
  | goOn
  | delete (name : Text) (subscript : List Expr)
  deriving Inhabited

/-- When the statement of a rule is done. -/
inductive Selection where
  | first
  | last
  | always
  | at (condition : Expr)
  | between (start stop : Expr)
  deriving Inhabited

/-- A rule. -/
structure Rule where
  selection : Selection
  body : Statement
  deriving Inhabited

/-- A function. -/
structure Function where
  name : Text
  parameters : List Text
  body : Statement
  deriving Inhabited

/-- A program. -/
structure Program where
  rules : List Rule
  functions : List Function
  deriving Inhabited

namespace Program

/-- Whether a program reads any records. -/
def readsRecords (program : Program) : Bool :=
  program.rules.any fun rule ↦ match rule.selection with
    | .first => false
    | _ => true

end Program

end Dialogue.Tool.Awk
