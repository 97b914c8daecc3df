import Dialogue.Machine.Basic
import Dialogue.Machine.Signal
import Dialogue.Shell.Condition
import Dialogue.Shell.Format
import Dialogue.Shell.Options

/-!
# Commands of the shell

A command of the shell changes the process that runs it, and sometimes the machine. An error of a
strict one ends the shell. This module holds what such commands have in common, and those that only
print, test or move: `echo`, `printf`, `test`, `cd`, `pwd`, `umask`.
-/

set_option autoImplicit false
set_option relaxedAutoImplicit false

namespace Dialogue.Machine

open Dialogue.Shell

/-- What a command of the shell does with its arguments. It may be strict. -/
abbrev Builtin := Bool → List Text → Process → Machine → Process × Machine

namespace Process

/-- The process after an error of a command of the shell. -/
def wrong (process : Process) (strict : Bool) (command : String) (message : Text) : Process :=
  if strict then process.giveUpOf command.toList message else process.refuse command message 2

/-- The process with an outcome and some output. -/
def print (process : Process) (command : String) (text : Text) (status : Nat) : Process :=
  if text.isEmpty then process.ended status
  else (process.ended status).push [.say command.toList text]

/-- The process with some complaints of a command in front of what it does next. -/
def complainAll (process : Process) (command : String) (messages : List Text) : Process :=
  messages.foldr (fun message process ↦ process.complainOf command.toList message) process

end Process

/-- The number that a word is, or the complaint about it. -/
def count (word : Text) : Except Text Nat := do
  let n ← Condition.number word
  if n < 0 || 2147483647 < n then .error ("Illegal number: ".toList ++ word) else return n.toNat

/-- A command that reads options first. -/
def Builtin.withOptions (command allowed : String)
    (next : List (Char × Text) → Builtin) : Builtin := fun strict words process machine ↦
  match cutOptions allowed words with
  | .error message => (process.wrong strict command message, machine)
  | .ok (options, rest) => next options strict rest process machine

/-- A command that does nothing. -/
def Builtin.settled (status : Nat) : Builtin := fun _ _ process machine ↦
  (process.ended status, machine)

/-! ### Printing and testing -/

/-- Prints the arguments. -/
def Builtin.echo : Builtin := fun _ words process machine ↦
  (process.print "echo" (Format.echoed words) 0, machine)

/-- Prints a format. -/
def Builtin.printf : Builtin :=
  .withOptions "printf" "" fun _ strict words process machine ↦
    match words with
    | [] => (process.wrong strict "printf" "usage: printf format [arg ...]".toList, machine)
    | format :: values =>
      let (text, complaints, status) := Format.formatted format values
      ((process.print "printf" text status).complainAll "printf"
        (complaints.map Format.Complaint.message), machine)

/-- Finds out about a condition. -/
def Builtin.test (bracketed : Bool) : Builtin := fun strict words process machine ↦
  let command := if bracketed then "[" else "test"
  let result : Except Text Bool :=
    if bracketed && words.getLast? != some [']'] then .error "missing ]".toList
    else
      Condition.value (machine.host process.state.directory)
        (if bracketed then words.dropLast else words)
  match result with
  | .ok true => (process.ended 0, machine)
  | .ok false => (process.ended 1, machine)
  | .error message => (process.wrong strict command message, machine)

/-! ### Directories -/

/-- The path of a directory. -/
def pathText (place : Location) : Text :=
  Text.narrow (Host.pathOf place).text

/-- The state with another working directory, which two variables tell. -/
def enterDirectory (state : State) (place : Location) : State :=
  let old := pathText state.directory
  let tell (state : State) (name : String) (value : Text) : State :=
    if state.isFixed name.toList then state
    else state.put name.toList ⟨some value, true, false⟩
  tell (tell { state with directory := place } "OLDPWD" old) "PWD" (pathText place)

/-- The paths at which a directory is looked for, each with whether it is told when it is found
there. A variable may name directories to look in, unless the path says where to begin. -/
def searchedFrom (state : State) (target : Text) : List (Text × Bool) :=
  let first := target.takeWhile (· != '/')
  if first.isEmpty || first == ['.'] || first == ['.', '.'] then [(target, false)]
  else
    match state.value? "CDPATH".toList with
    | none => [(target, false)]
    | some directories =>
      ((Text.splitOn ':' directories).map fun directory ↦
        if directory.isEmpty then (target, false) else (directory ++ '/' :: target, true))
        ++ [(target, false)]

/-- Goes to another directory. -/
def Builtin.cd : Builtin :=
  .withOptions "cd" "LP" fun _ strict words process machine ↦
    let state := process.state
    let variableOr (name : String) : Text := (state.value? name.toList).getD []
    let (target, tells) := match words with
      | [] => (variableOr "HOME", false)
      | ['-'] :: _ => (variableOr "OLDPWD", true)
      | target :: _ => (target, false)
    let placeOf? (path : Text) : Option Location :=
      match (machine.host state.directory).resolve ⟨Text.widen path⟩ with
      | .ok place => if (machine.tree.find? place).any Tree.isDirectory then some place else none
      | .error _ => none
    let found := if target.isEmpty then some (state.directory, false)
      else
        (searchedFrom state target).findSome? fun (path, tells) ↦
          (placeOf? path).map fun place ↦ (place, tells)
    match found with
    | some (place, found) =>
      let process := process.withState (enterDirectory state place)
      (process.print "cd" (if tells || found then pathText place ++ ['\n'] else []) 0, machine)
    | none => (process.wrong strict "cd" ("can't cd to ".toList ++ target), machine)

/-- Tells the working directory. -/
def Builtin.pwd : Builtin :=
  .withOptions "pwd" "LP" fun _ _ _ process machine ↦
    (process.print "pwd" (pathText process.state.directory ++ ['\n']) 0, machine)

/-! ### Permissions and limits -/

/-- Tells or sets a limit. There are none. -/
def Builtin.ulimit : Builtin :=
  .withOptions "ulimit" "HSatfdscmlpnvwr" fun _ strict words process machine ↦
    match words with
    | [] => (process.print "ulimit" "unlimited\n".toList 0, machine)
    | [word] =>
      if word == "unlimited".toList || (!word.isEmpty && word.all Char.isDigit) then
        (process.ended 0, machine)
      else (process.wrong strict "ulimit" "bad number".toList, machine)
    | _ => (process.wrong strict "ulimit" "too many arguments".toList, machine)

/-- A number in base eight, with four digits at least. -/
def octalText (n : Nat) : Text :=
  let digits := Nat.toDigits 8 n
  List.replicate (4 - digits.length) '0' ++ digits

/-- The permissions that a mask leaves, in letters. -/
def maskText (mask : Nat) : Text :=
  let letters (who : Char) (shift : Nat) : Text :=
    let taken := mask / shift % 8
    who :: '=' :: ((if taken / 4 % 2 = 0 then ['r'] else []) ++
      (if taken / 2 % 2 = 0 then ['w'] else []) ++ (if taken % 2 = 0 then ['x'] else []))
  Text.joinWith [','] [letters 'u' 64, letters 'g' 8, letters 'o' 1]

/-- The mask that a word asks for, in base eight or in letters. -/
def maskOf? (mask : Nat) (word : Text) : Except Text Nat :=
  if word.head?.any Char.isDigit then
    match Text.toNat? 8 word with
    | some n => .ok (n % 512)
    | none => .error ("Illegal number: ".toList ++ word)
  else
    let change (mask : Option Nat) (clause : Text) : Option Nat := do
      let mask ← mask
      let who := clause.takeWhile fun c ↦ "ugoa".toList.contains c
      let permissions ← clause[who.length]?
      let letters := clause.drop (who.length + 1)
      let bit (c : Char) : Option Nat :=
        match c with
        | 'r' => some 4
        | 'w' => some 2
        | 'x' => some 1
        | _ => none
      let bits ← letters.foldl (fun bits c ↦ do return (← bits) ||| (← bit c)) (some 0)
      let places := [('u', 64), ('g', 8), ('o', 1)].filter fun (c, _) ↦
        who.isEmpty || who.contains 'a' || who.contains c
      places.foldl (fun mask (_, shift) ↦ do
        let mask ← mask
        let given := 7 - mask / shift % 8
        let new ← match permissions with
          | '=' => some bits
          | '+' => some (given ||| bits)
          | '-' => some (given - (given &&& bits))
          | _ => none
        return mask - (mask / shift % 8) * shift + (7 - new) * shift) (some mask)
    match (Text.splitOn ',' word).foldl change (some mask) with
    | some mask => .ok mask
    | none => .error ("Illegal mode: ".toList ++ word)

/-- Tells or sets the permissions that new files do not get. -/
def Builtin.umask : Builtin :=
  .withOptions "umask" "S" fun options strict words process machine ↦
    match words with
    | [] =>
      let text := if options.isEmpty then octalText process.state.mask
        else maskText process.state.mask
      (process.print "umask" (text ++ ['\n']) 0, machine)
    | word :: _ =>
      match maskOf? process.state.mask word with
      | .ok mask => (process.withState { process.state with mask := mask, status := 0 }, machine)
      | .error message => (process.wrong strict "umask" message, machine)

end Dialogue.Machine
