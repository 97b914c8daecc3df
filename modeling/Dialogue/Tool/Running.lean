import Dialogue.Tool.Input
import Dialogue.Tool.Reckoning
import Dialogue.Tool.Switches

/-!
# Tools that run commands or wait

Tools that run another command with other variables, in another way, for some time only, or again
and again with words from the input: `env`, `timeout`, `nohup`, `nice`, `stdbuf`, `setsid`,
`xargs`; and those that wait, or tell about the system: `sleep`, `printenv`, `id`, `uname`, `tty`.
-/

set_option autoImplicit false
set_option relaxedAutoImplicit false

namespace Dialogue.Tool

open Dialogue.Machine

/-! ### Giving way to a command -/

/-- The status for a command that cannot be run. -/
def runningStatus (error : FileError) : Nat :=
  if error == .notFound || error == .notADirectory then 127 else 126

/-- Gives way to a command, or complains that it cannot be run. -/
def giveWay (complaint : Text → Text) (words : List Text) (environment : List (Text × Text)) :
    Work Nat := do
  let error ← Work.become words environment
  Work.fail (complaint (words.headD []) ++ ": ".toList ++ error.wording) (runningStatus error)

/-- The complaint that a command cannot be run. -/
def failedToRun (name : Text) : Text :=
  "failed to run command ".toList ++ quotedWord name

/-- Variables with one of them set. -/
def withVariable (environment : List (Text × Text)) (name value : Text) : List (Text × Text) :=
  if environment.any fun (other, _) ↦ other == name then
    environment.map fun (other, old) ↦ (other, if other == name then value else old)
  else environment ++ [(name, value)]

/-- The words of a text, between blanks. -/
def blankWords (text : Text) : List Text :=
  (Text.splitOn ' ' (text.map fun c ↦ if c == '\t' then ' ' else c)).filter fun word ↦ !word.isEmpty

/-- The words of `env` with those in place that one of them is cut into. -/
def cutWords (words : List Text) : List Text :=
  match words with
  | ('-' :: 'S' :: text) :: rest =>
    if text.isEmpty then
      match rest with
      | text :: rest => blankWords text ++ rest
      | [] => words
    else blankWords text ++ rest
  | ('-' :: 'v' :: 'S' :: text) :: rest => blankWords text ++ rest
  | _ => words

/-- Runs a command with other variables, or lists them. -/
def env (words : List Text) (environment : List (Text × Text)) : Work Nat := do
  let choices ← Work.choices
    [.flag "i" "ignore-environment", .value "u" "unset", .flag "0" "null", .value "C" "chdir",
      .value "S" "split-string", .flag "v" "debug"] true (cutWords words) 125
  let operands := if choices.operands.head? == some ['-'] then choices.operands.drop 1
    else choices.operands
  let fresh := choices.has "ignore-environment" || choices.operands.head? == some ['-']
  let environment := if fresh then [] else environment
  let environment := environment.filter fun (name, _) ↦ !(choices.all "unset").contains name
  let settings := operands.takeWhile fun word ↦ word.contains '='
  let environment := settings.foldl (fun environment word ↦
    let name := word.takeWhile (· != '=')
    withVariable environment name (word.drop (name.length + 1))) environment
  match operands.drop settings.length with
  | [] =>
    let terminator := if choices.has "null" then Char.ofNat 0 else '\n'
    for (name, value) in environment do
      Work.put (name ++ '=' :: value ++ [terminator])
    return 0
  | command => giveWay quotedWord command environment

/-- Prints variables. -/
def printenv (words : List Text) (environment : List (Text × Text)) : Work Nat := do
  let choices ← Work.choices [.flag "0" "null"] true words 2
  if choices.operands.isEmpty then
    for (name, value) in environment do
      Work.putLine (name ++ '=' :: value)
    return 0
  Work.fold (fun status name ↦ do
    match environment.lookup name with
    | some value =>
      Work.putLine value
      return status
    | none => return 1) 0 choices.operands

/-- Runs a command that goes on when its terminal is gone. -/
def nohup (words : List Text) (environment : List (Text × Text)) : Work Nat := do
  let choices ← Work.choices [] true words 125
  if choices.operands.isEmpty then Work.misused "missing operand".toList 125
  giveWay (fun name ↦ "failed to run command ".toList ++ quotedName name) choices.operands
    environment

/-- Runs a command with a lower priority, or prints the priority. -/
def nice (words : List Text) (environment : List (Text × Text)) : Work Nat := do
  let choices ← Work.choices [.value "n" "adjustment"] true words 125
  match choices.last? "adjustment" with
  | some word =>
    if (Expr.number? word).isNone then
      Work.fail ("invalid adjustment ".toList ++ quotedWord word) 125
  | none => pure ()
  if choices.operands.isEmpty then
    Work.putLine ['0']
    return 0
  giveWay quotedWord choices.operands environment

/-- Runs a command that writes its output in another way. -/
def stdbuf (words : List Text) (environment : List (Text × Text)) : Work Nat := do
  let choices ← Work.choices
    [.value "i" "input", .value "o" "output", .value "e" "error"] true words 125
  if choices.operands.isEmpty then Work.misused "missing operand".toList 125
  let environment := match choices.last? "output" with
    | some mode => withVariable environment "_STDBUF_O".toList mode
    | none => environment
  giveWay failedToRun choices.operands environment

/-- Runs a command as the first one of a group. -/
def setsid (words : List Text) (environment : List (Text × Text)) : Work Nat := do
  let choices ← Work.choices [.flag "w" "wait", .flag "c" "ctty", .flag "f" "fork"] true words 1
  if choices.operands.isEmpty then Work.misused "no command specified".toList 1
  giveWay (fun name ↦ "failed to execute ".toList ++ name) choices.operands environment

/-! ### Time -/

/-- How many seconds a letter stands for. -/
def secondsOf : Text → Option Nat
  | [] | ['s'] => some 1
  | ['m'] => some 60
  | ['h'] => some 3600
  | ['d'] => some 86400
  | _ => none

/-- The time that a word stands for. -/
def duration? (word : Text) : Option Duration := do
  let mantissa := word.takeWhile fun c ↦ c.isDigit || c == '.' || c == 'e' || c == '-' || c == '+'
  let seconds ← secondsOf (word.drop mantissa.length)
  let decimal ← Decimal.ofText? mantissa
  if decimal.digits < 0 then none
  return ⟨(decimal.digits.toNat * seconds * 1000000000) / Nat.pow 10 decimal.places⟩

/-- Waits for some time. -/
def sleep (words : List Text) : Work Nat := do
  let choices ← Work.choices [] false words 1
  let endless (word : Text) : Bool :=
    ["inf", "infinity"].contains (String.ofList (word.map Char.toLower))
  match choices.operands with
  | [] => Work.misused "missing operand".toList 1
  | operands =>
    let wrong := operands.filter fun word ↦ !endless word && (duration? word).isNone
    if !wrong.isEmpty then
      for word in wrong do
        Work.complain ("invalid time interval ".toList ++ quotedWord word)
      Work.suggestHelp
      Work.stop 1
    if operands.any endless then Work.rest
    let total := operands.foldl (fun n word ↦ n + ((duration? word).getD ⟨0⟩).nanoseconds) 0
    Work.sleep ⟨total⟩
    return 0

/-- Runs a command for some time at most. -/
def timeout (words : List Text) (environment : List (Text × Text)) : Work Nat := do
  let choices ← Work.choices
    [.value "k" "kill-after", .value "s" "signal", .flag "v" "verbose", .flag "" "preserve-status",
      .flag "" "foreground"] true words 125
  match choices.operands with
  | limit :: name :: arguments =>
    match duration? limit with
    | none => Work.misused ("invalid time interval ".toList ++ quotedWord limit) 125
    | some time =>
      let command := name :: arguments
      match ← Work.run command environment (if time.nanoseconds = 0 then none else some time) with
      | .ok (some status) => return status
      | .ok none =>
        let killed := (choices.last? "signal").any fun signal ↦
          ["9", "KILL", "SIGKILL"].contains (String.ofList signal)
        return if killed then 137 else if choices.has "preserve-status" then 143 else 124
      | .error error =>
        Work.fail (failedToRun name ++ ": ".toList ++ error.wording) (runningStatus error)
  | _ => do
    Work.suggestHelp
    return 125

/-! ### Words from the input -/

/-- The complaint about a quotation mark that is not closed. -/
def unmatchedQuote (mark : Char) : Text :=
  "unmatched ".toList ++ (if mark == '"' then "double" else "single").toList ++ " quote; ".toList
    ++ "by default quotes are special to xargs unless you use the -0 option".toList

/-- Cuts a text into words as a shell would: at blanks that are neither quoted nor behind a
backslash. The word at work is given, its last character first, and the ends of lines are told
apart. The fuel is the length of the text and one more. -/
def inputWordsUpTo (word : Option Text) (text : Text) : Nat → Except Text (List (Option Text))
  | 0 => .ok []
  | fuel + 1 =>
    let finish : List (Option Text) := (word.map fun chars ↦ some chars.reverse).toList
    let add (chars : Text) (rest : Text) : Except Text (List (Option Text)) :=
      inputWordsUpTo (some (chars.reverse ++ word.getD [])) rest fuel
    match text with
    | [] => .ok finish
    | '\\' :: c :: rest => add [c] rest
    | c :: rest =>
      if c == '\'' || c == '"' then
        let inner := rest.takeWhile fun d ↦ d != c && d != '\n'
        match rest.drop inner.length with
        | d :: rest =>
          if d == c then add inner rest else .error (unmatchedQuote c)
        | [] => .error (unmatchedQuote c)
      else if c == '\n' then (inputWordsUpTo none rest fuel).map (finish ++ none :: ·)
      else if c == ' ' || c == '\t' then (inputWordsUpTo none rest fuel).map (finish ++ ·)
      else add [c] rest

/-- Words in groups of a number. The fuel is the number of words. -/
def groupsOf (count : Nat) (words : List Text) : Nat → List (List Text)
  | 0 => []
  | fuel + 1 =>
    if words.isEmpty then []
    else words.take count :: groupsOf count (words.drop count) fuel

/-- The words of lines, the lines in groups of a number. -/
def lineGroups (count : Nat) (words : List (Option Text)) : List (List Text) :=
  let lines := (words.foldr (fun word lines ↦
    match word, lines with
    | none, lines => [] :: lines
    | some word, line :: rest => (word :: line) :: rest
    | some word, [] => [[word]]) [[]]).filter fun line ↦ !line.isEmpty
  (go lines lines.length)
where
  /-- Lines in groups. -/
  go (lines : List (List Text)) : Nat → List (List Text)
    | 0 => []
    | fuel + 1 =>
      if lines.isEmpty then [] else (lines.take count).flatten :: go (lines.drop count) fuel

/-- The commands that are run with words from the input. -/
def commandsFor (choices : Choices) (text : Text) : Except Text (List (List Text)) := do
  let command := if choices.operands.isEmpty then ["echo".toList] else choices.operands
  let separator : Option Char :=
    if choices.has "null" then some (Char.ofNat 0)
    else (choices.last? "delimiter").bind fun word ↦
      match word with
      | ['\\', 'n'] => some '\n'
      | ['\\', 't'] => some '\t'
      | ['\\', '0'] => some (Char.ofNat 0)
      | [c] => some c
      | _ => none
  let number (key : String) : Option Nat :=
    (choices.last? key).bind fun word ↦ (Text.toNat? 10 word).filter (0 < ·)
  let mark := (choices.last? "replace").map fun mark ↦
    if mark.isEmpty then "\x7b\x7d".toList else mark
  let mark := (choices.last? "I").or mark
  match mark with
  | some mark =>
    let lines : List Text := match separator with
      | some c => Text.splitOn c text
      | none => (lineTexts text).map (List.dropWhile fun c ↦ c == ' ' || c == '\t')
    return (lines.filter fun line ↦ !List.isEmpty line).map fun line ↦
      command.map (Text.replaceAll mark line)
  | none =>
    let words ← match separator with
      | some c =>
        let pieces := Text.splitOn c text
        let pieces := if pieces.getLast? == some [] then pieces.dropLast else pieces
        pure (pieces.map some)
      | none => inputWordsUpTo none text (text.length + 1)
    let plain := words.filterMap id
    let groups := match number "max-lines", number "max-args" with
      | some count, none => lineGroups count words
      | _, some count => groupsOf count plain plain.length
      | none, none => if plain.isEmpty then [] else [plain]
    let groups := if groups.isEmpty && !choices.has "no-run-if-empty" then [[]] else groups
    return groups.map (command ++ ·)

/-- Runs commands with words from the input. -/
def xargs (words : List Text) (environment : List (Text × Text)) : Work Nat := do
  let choices ← Work.choices
    [.value "n" "max-args", .value "I" "", .maybe "i" "replace", .flag "0" "null",
      .value "d" "delimiter", .flag "r" "no-run-if-empty", .flag "t" "verbose",
      .value "L" "max-lines", .value "P" "max-procs", .flag "x" "exit", .value "s" "max-chars",
      .flag "p" "interactive", .value "a" "arg-file", .maybe "E" "eof"] true words 1
  for letter in ["max-args", "max-lines", "max-procs"] do
    match choices.last? letter with
    | some word =>
      if (Text.toNat? 10 word).isNone then
        Work.misused ("invalid number \"".toList ++ word ++ "\" for -".toList
          ++ [if letter == "max-args" then 'n' else if letter == "max-lines" then 'L' else 'P']
          ++ " option".toList) 1
    | none => pure ()
  let text ← match ← Work.readInput ((choices.last? "arg-file").getD ['-']) with
    | .ok text => pure text
    | .error error => Work.fail error.wording 1
  match commandsFor choices text with
  | .error message => Work.fail message 1
  | .ok commands =>
    Work.fold (fun status command ↦ do
      if choices.has "verbose" then Work.report (Text.joinWith [' '] command ++ ['\n'])
      let name := command.headD []
      match ← Work.run command environment none with
      | .ok (some 0) => return status
      | .ok (some 255) =>
        Work.fail (name ++ ": exited with status 255; aborting".toList) 124
      | .ok (some failed) =>
        return if failed < 126 then 123 else if failed < 128 then failed else 125
      | .ok none => return 125
      | .error error =>
        Work.fail (name ++ ": ".toList ++ error.wording) (runningStatus error)) 0 commands

/-! ### The system -/

/-- Prints who runs the tool. -/
def id (words : List Text) : Work Nat := do
  let choices ← Work.choices
    [.flag "u" "user", .flag "g" "group", .flag "G" "groups", .flag "n" "name", .flag "r" "real"]
    false words 1
  let short := choices.has "user" || choices.has "group" || choices.has "groups"
  Work.putLine (if !short then "uid=0(root) gid=0(root) groups=0(root)"
    else if choices.has "name" then "root" else "0").toList
  return 0

/-- Prints the name of who runs the tool. -/
def whoami (words : List Text) : Work Nat := do
  let choices ← Work.choices [] false words 1
  Work.atMost choices 0 1
  Work.putLine "root".toList
  return 0

/-- Prints the name of the system. -/
def uname (words : List Text) : Work Nat := do
  let choices ← Work.choices
    ([.flag "s" "kernel-name", .flag "o" "operating-system"] ++ Switch.plain "nrvmpia")
    false words 1
  Work.atMost choices 0 1
  Work.putLine (if choices.has "operating-system" then "GNU/Linux" else "Linux").toList
  return 0

/-- Tells that the input is no terminal of a user. -/
def tty (words : List Text) : Work Nat := do
  let choices ← Work.choices [.flag "s" "silent", .flag "" "quiet"] false words 2
  Work.atMost choices 0 2
  if !choices.has "silent" && !choices.has "quiet" then Work.putLine "not a tty".toList
  return 1

end Dialogue.Tool
