import Dialogue.Regex.Parser
import Dialogue.Text.Bytes

/-!
# Scripts for editing lines

A script for `sed` is a list of commands. Each may have a selector in front, which names the lines
that it is for; commands in braces share a selector. When the script is read, jumps and braces
become places in the list (`Script.resolve`).
-/

set_option autoImplicit false
set_option relaxedAutoImplicit false

namespace Dialogue.Tool.Sed

/-- A description of a line. -/
inductive Address where
  | line (n : Nat)
  | last
  /-- A line that matches a pattern; without one, the pattern that was used last. -/
  | match' (pattern : Option Regex.Pattern)
  /-- A line, and every so many lines behind it. -/
  | step (first step : Nat)
  deriving Repr, DecidableEq, Inhabited

/-- Where a range of lines ends. -/
inductive Limit where
  | at (address : Address)
  /-- Some lines behind its start. -/
  | plus (count : Nat)
  /-- At the next line whose number is a multiple. -/
  | multiple (n : Nat)
  deriving Repr, DecidableEq, Inhabited

/-- The lines that a command is for. -/
structure Selector where
  first : Option Address
  limit : Option Limit
  negated : Bool
  deriving Repr, DecidableEq, Inhabited

/-- How the case of letters is changed in a replacement. -/
inductive CaseChange where
  | upper
  | lower
  | none
  | nextUpper
  | nextLower
  deriving Repr, DecidableEq, Inhabited

/-- A piece of a replacement. -/
inductive Replacement where
  | text (text : Text)
  | group (number : Nat)
  | change (change : CaseChange)
  deriving Repr, DecidableEq, Inhabited

/-- What is done with what a pattern matches. -/
structure Substitution where
  pattern : Option Regex.Pattern
  pieces : List Replacement
  /-- Whether all matches are replaced, from some one on. -/
  all : Bool
  from' : Nat
  prints : Bool
  /-- The file to which a changed line is written. -/
  file : Option Text
  deriving Repr, DecidableEq, Inhabited

/-- What a command does. -/
inductive Action where
  /-- Skips the commands up to some place if the line is not selected. -/
  | opens (target : Nat)
  | closes
  | substitute (substitution : Substitution)
  | transform (pairs : List (Char × Char))
  | append (text : Text)
  | insert (text : Text)
  | change (text : Text)
  | delete
  | deleteFirst
  | print
  | printFirst
  | next
  | appendNext
  | quit (status : Nat) (prints : Bool)
  | hold (appends : Bool)
  | get (appends : Bool)
  | exchange
  | number
  | name
  | list
  | empty
  | read (file : Text)
  | write (file : Text) (first : Bool)
  | jump (label : Text) (target : Nat) (condition : Option Bool)
  | label (name : Text)
  deriving Repr, DecidableEq, Inhabited

/-- A command of a script. -/
structure Command where
  selector : Selector
  action : Action
  deriving Repr, DecidableEq, Inhabited

/-! ### Reading -/

/-- Where something is wrong with a script. -/
inductive FlawPlace where
  /-- In front of so many characters. -/
  | before (left : Nat)
  /-- In no part of it alone. -/
  | nowhere
  /-- At the place that a jump leads to. -/
  | target
  deriving Repr, DecidableEq, Inhabited

/-- What is wrong with a script. -/
structure Flaw where
  message : Text
  place : FlawPlace
  deriving Repr, DecidableEq, Inhabited

/-- A flaw in front of a text. -/
def wrong {α : Type} (message : String) (rest : Text) : Except Flaw α :=
  .error ⟨message.toList, .before rest.length⟩

/-- Whether a character is a blank. -/
def isBlank (c : Char) : Bool := c == ' ' || c == '\t'

/-- How long a set is behind its bracket, with the bracket that ends it. The fuel is the length of
the text. -/
def setLength? (first : Bool) (text : Text) : Nat → Option Nat
  | 0 => none
  | fuel + 1 =>
    match text with
    | [] => none
    | '^' :: rest => (setLength? first rest fuel).map (· + 1)
    | ']' :: rest => if first then (setLength? false rest fuel).map (· + 1) else some 1
    | '[' :: ':' :: rest =>
      match Regex.upToPair? ':' ']' rest with
      | some (name, rest) => (setLength? false rest fuel).map (· + (name.length + 4))
      | none => none
    | _ :: rest => (setLength? false rest fuel).map (· + 1)

/-- The text up to an unescaped separator, and what follows. A separator behind a backslash stands
for itself; brackets hide separators if that is wanted. The fuel is the length of the text. -/
def delimited? (separator : Char) (isRegex : Bool) (text : Text) : Nat → Option (Text × Text)
  | 0 => none
  | fuel + 1 =>
    match text with
    | [] => none
    | '\\' :: c :: rest =>
      (delimited? separator isRegex rest fuel).map fun (inner, more) ↦
        if c == separator && !(isRegex && c.isAlphanum) then (c :: inner, more)
        else if c == '\n' && isRegex then ('\n' :: inner, more)
        else ('\\' :: c :: inner, more)
    | c :: rest =>
      let set := if c == '[' && isRegex then
          ((setLength? true rest (rest.length + 1)).filter fun n ↦
            !(rest.take n).contains '\n').getD 0
        else 0
      if c == separator then some ([], rest)
      else if 0 < set then
        (delimited? separator isRegex (rest.drop set) fuel).map fun (inner, more) ↦
          (c :: rest.take set ++ inner, more)
      else if c == '\n' && isRegex then none
      else (delimited? separator isRegex rest fuel).map fun (inner, more) ↦ (c :: inner, more)

/-- The characters that a backslash and what follows it give by their numbers, and what follows
them: in base sixteen, eight or ten, or as a control character. -/
def numbered? (text : Text) : Option (Char × Text) :=
  let inBase (base most : Nat) (rest : Text) : Option (Char × Text) :=
    let digits := (rest.take most).takeWhile fun c ↦ (Text.toNat? base [c]).isSome
    (Text.toNat? base digits).map fun n ↦ (Char.ofNat (n % 256), rest.drop digits.length)
  match text with
  | 'x' :: rest => inBase 16 2 rest
  | 'o' :: rest => inBase 8 3 rest
  | 'd' :: rest => inBase 10 3 rest
  | 'c' :: c :: rest =>
    let n := c.toUpper.toNat
    some (Char.ofNat (if n < 64 then n + 64 else n - 64), rest)
  | _ => none

/-- A text with the characters in it that are given by their numbers. Some of them may have to be
escaped. The fuel is the length of the text. -/
def withNumbered (escaped : List Char) (text : Text) : Nat → Text
  | 0 => []
  | fuel + 1 =>
    match text with
    | '\\' :: c :: rest =>
      match numbered? (c :: rest) with
      | some (d, rest) =>
        (if escaped.contains d then ['\\', d] else [d]) ++ withNumbered escaped rest fuel
      | none => '\\' :: c :: withNumbered escaped rest fuel
    | c :: rest => c :: withNumbered escaped rest fuel
    | [] => []

/-- The number at the start of a text, and what follows. -/
def cutNumber (text : Text) : Option Nat × Text :=
  let digits := text.takeWhile Char.isDigit
  (Text.toNat? 10 digits, text.drop digits.length)

/-- Reads an expression; the empty one stands for the one that was used last. -/
def patternOf (extended ignoresCase inLines : Bool) (source rest : Text) :
    Except Flaw (Option Regex.Pattern) :=
  if source.isEmpty then .ok none
  else
    match Regex.parse ⟨extended, true⟩ (withNumbered [] source (source.length + 1)) with
    | .ok regex => .ok (some ⟨regex, ignoresCase, inLines⟩)
    | .error message => .error ⟨message, .before rest.length⟩

/-- The letters behind an expression that is an address, and what follows. -/
def addressFlags (ignoresCase inLines : Bool) : Text → Bool × Bool × Text
  | 'I' :: rest => addressFlags true inLines rest
  | 'M' :: rest => addressFlags ignoresCase true rest
  | rest => (ignoresCase, inLines, rest)

/-- Reads an address, if there is one. -/
def address? (extended : Bool) (text : Text) : Except Flaw (Option Address × Text) :=
  let expression (separator : Char) (rest : Text) : Except Flaw (Option Address × Text) :=
    match delimited? separator true rest (rest.length + 1) with
    | none => wrong "unterminated address regex" []
    | some (source, rest) => do
      let (ignoresCase, inLines, rest) := addressFlags false false rest
      let pattern ← patternOf extended ignoresCase inLines source rest
      return (some (.match' pattern), rest)
  match text with
  | '$' :: rest => .ok (some .last, rest)
  | '/' :: rest => expression '/' rest
  | '\\' :: c :: rest => expression c rest
  | c :: _ =>
    if !c.isDigit then .ok (none, text)
    else
      let (n, rest) := cutNumber text
      let rest' := rest.dropWhile isBlank
      match rest' with
      | '~' :: more =>
        let (step, more) := cutNumber (more.dropWhile isBlank)
        .ok (some (.step (n.getD 0) (step.getD 0)), more)
      | _ => .ok (some (.line (n.getD 0)), rest)
  | [] => .ok (none, [])

/-- Reads the end of a range. -/
def limit (extended : Bool) (text : Text) : Except Flaw (Limit × Text) :=
  match text with
  | '+' :: rest =>
    let (n, rest) := cutNumber rest
    .ok (.plus (n.getD 0), rest)
  | '~' :: rest =>
    let (n, rest) := cutNumber rest
    .ok (.multiple (n.getD 0), rest)
  | _ => do
    match ← address? extended text with
    | (some address, rest) => return (.at address, rest)
    | (none, rest) => wrong "unexpected \x60,'" (rest.drop 1)

/-- Reads a selector. -/
def selector (extended : Bool) (text : Text) : Except Flaw (Selector × Text) := do
  let (first, rest) ← address? extended text
  let rest := rest.dropWhile isBlank
  let (limit, rest) ← match first, rest with
    | some _, ',' :: rest => do
      let (limit, rest) ← limit extended (rest.dropWhile isBlank)
      pure (some limit, rest)
    | none, ',' :: rest => wrong "unexpected \x60,'" rest
    | _, rest => pure (none, rest)
  let byPattern := match limit with
    | some (.at (.match' _)) => true
    | _ => false
  if first == some (.line 0) && !byPattern then
    wrong "invalid usage of line address 0" (rest.drop 1)
  let rest := rest.dropWhile isBlank
  match rest with
  | '!' :: rest =>
    let rest := rest.dropWhile isBlank
    if rest.head? == some '!' then wrong "multiple \x60!'s" (rest.drop 1)
    return (⟨first, limit, true⟩, rest)
  | _ => return (⟨first, limit, false⟩, rest)

/-- The pieces of a replacement. The fuel is its length. -/
def replacementUpTo (text : Text) : Nat → List Replacement
  | 0 => []
  | fuel + 1 =>
    match text with
    | [] => []
    | '&' :: rest => .group 0 :: replacementUpTo rest fuel
    | '\\' :: c :: rest =>
      let piece : Replacement :=
        if c.isDigit then .group (c.toNat - 48)
        else
          match c with
          | 'U' => .change .upper
          | 'L' => .change .lower
          | 'E' => .change .none
          | 'u' => .change .nextUpper
          | 'l' => .change .nextLower
          | c => .text [(Regex.control? c).getD c]
      piece :: replacementUpTo rest fuel
    | c :: rest =>
      let run := rest.takeWhile fun c ↦ c != '&' && c != '\\'
      .text (c :: run) :: replacementUpTo (rest.drop run.length) fuel

/-- The name of a file up to the end of the line, and what follows. -/
def fileName (text : Text) : Except Flaw (Text × Text) :=
  let text := text.dropWhile isBlank
  let name := text.takeWhile (· != '\n')
  if name.isEmpty then wrong "missing filename in r/R/w/W commands" (text.drop name.length)
  else .ok (Text.scatter name, text.drop name.length)

/-- What stands behind a substitution. -/
structure Flags where
  all : Bool
  number : Option Nat
  prints : Bool
  ignoresCase : Bool
  inLines : Bool
  file : Option Text
  deriving Repr, DecidableEq, Inhabited

/-- Reads what stands behind a substitution. The fuel is the length of the text and one more. -/
def flags (found : Flags) (text : Text) : Nat → Except Flaw (Flags × Text)
  | 0 => .ok (found, text)
  | fuel + 1 =>
    match text with
    | 'g' :: rest =>
      if found.all then wrong "multiple \x60g' options to \x60s' command" rest
      else flags { found with all := true } rest fuel
    | 'p' :: rest =>
      if found.prints then wrong "multiple \x60p' options to \x60s' command" rest
      else flags { found with prints := true } rest fuel
    | 'i' :: rest | 'I' :: rest => flags { found with ignoresCase := true } rest fuel
    | 'm' :: rest | 'M' :: rest => flags { found with inLines := true } rest fuel
    | 'e' :: rest => flags found rest fuel
    | 'w' :: rest => do
      let (name, rest) ← fileName rest
      return ({ found with file := some name }, rest)
    | c :: rest =>
      if c.isDigit then
        match cutNumber text with
        | (some 0, rest) => wrong "number option to \x60s' command may not be zero" rest
        | (n, rest) =>
          if found.number.isSome then
            wrong "multiple number options to \x60s' command" rest
          else flags { found with number := n } rest fuel
      else if c == ';' || c == '\n' || c == '\x7d' || c == '#' || isBlank c then .ok (found, text)
      else wrong "unknown option to \x60s'" rest
    | [] => .ok (found, [])

/-- Reads a substitution. -/
def substitution (extended : Bool) (text : Text) : Except Flaw (Action × Text) :=
  let openEnd : Except Flaw (Action × Text) := wrong "unterminated \x60s' command" []
  match text with
  | [] => openEnd
  | separator :: rest =>
    match delimited? separator true rest (rest.length + 1) with
    | none => openEnd
    | some (source, rest) =>
      match delimited? separator false rest (rest.length + 1) with
      | none => openEnd
      | some (replacement, rest) => do
        let (found, rest) ← flags ⟨false, none, false, false, false, none⟩ rest (rest.length + 1)
        let pattern ← patternOf extended found.ignoresCase found.inLines source rest
        let replacement := withNumbered ['&', '\\'] replacement (replacement.length + 1)
        let pieces := replacementUpTo replacement (replacement.length + 1)
        let groups := (pattern.map fun p ↦ Regex.groupCount p.regex).getD 9
        match pieces.findSome? fun
            | .group n => if groups < n then some n else none
            | _ => none with
        | some n =>
          .error ⟨"invalid reference \\".toList ++ Text.ofNat n
            ++ " on \x60s' command's RHS".toList, .before rest.length⟩
        | none => pure ()
        let substitution : Substitution :=
          ⟨pattern, pieces, found.all, found.number.getD 1, found.prints, found.file⟩
        return (.substitute substitution, rest)

/-- A text with its escaped characters, for a transformation. -/
def plainChars : Text → Text
  | '\\' :: 'n' :: rest => '\n' :: plainChars rest
  | '\\' :: 't' :: rest => '\t' :: plainChars rest
  | '\\' :: '\\' :: rest => '\\' :: plainChars rest
  | c :: rest => c :: plainChars rest
  | [] => []

/-- Reads a transformation. -/
def transformation (text : Text) : Except Flaw (Action × Text) :=
  let openEnd : Except Flaw (Action × Text) := wrong "unterminated \x60y' command" []
  match text with
  | [] => openEnd
  | separator :: rest =>
    match delimited? separator false rest (rest.length + 1) with
    | none => openEnd
    | some (source, rest) =>
      match delimited? separator false rest (rest.length + 1) with
      | none => openEnd
      | some (target, rest) =>
        let source := plainChars (withNumbered ['\\'] source (source.length + 1))
        let target := plainChars (withNumbered ['\\'] target (target.length + 1))
        if source.length ≠ target.length then
          wrong "strings for \x60y' command are different lengths" rest
        else .ok (.transform (source.zip target), rest)

/-- A text up to the first line break that no backslash stands before, and what follows. A backslash
goes, and what is behind it may stand for another character. The fuel is the length of the text and
one more. -/
def textUpToBreak (text : Text) : Nat → Text × Text
  | 0 => ([], text)
  | fuel + 1 =>
    let goOn (c : Char) (rest : Text) : Text × Text :=
      let (more, left) := textUpToBreak rest fuel
      (c :: more, left)
    match text with
    | [] => ([], [])
    | ['\\'] => ([], [])
    | '\n' :: rest => ([], rest)
    | '\\' :: c :: rest =>
      match numbered? (c :: rest) with
      | some (d, rest) => goOn d rest
      | none => goOn ((Regex.control? c).getD c) rest
    | c :: rest => goOn c rest

/-- Reads the text of a command that adds or changes lines. -/
def addedText (text : Text) : Except Flaw (Text × Text) :=
  let rest := text.dropWhile isBlank
  let started : Option Text := match rest with
    | [] => none
    | '\\' :: more =>
      let behind := more.dropWhile isBlank
      match behind with
      | '\n' :: lines => some lines
      | [] => some []
      | _ => some more
    | rest => some rest
  match started with
  | none => wrong "expected \\ after \x60a', \x60c' or \x60i'" []
  | some lines =>
    if rest.head? == some '\\' && lines.isEmpty then .ok ([], [])
    else
      let (added, left) := textUpToBreak lines (lines.length + 1)
      .ok (added ++ ['\n'], left)

/-- Reads a label. -/
def labelAt (text : Text) : Text × Text :=
  let text := text.dropWhile isBlank
  let name := text.takeWhile fun c ↦ c != ';' && c != '\n' && !isBlank c && c != '\x7d'
  (name, text.drop name.length)

/-- Reads what a command does. -/
def action (extended : Bool) (text : Text) : Except Flaw (Action × Text) :=
  let done (action : Action) (rest : Text) : Except Flaw (Action × Text) := .ok (action, rest)
  let quits (prints : Bool) (rest : Text) : Except Flaw (Action × Text) :=
    let (status, rest) := cutNumber (rest.dropWhile isBlank)
    done (.quit (status.getD 0) prints) rest
  let jumps (condition : Option Bool) (rest : Text) : Except Flaw (Action × Text) :=
    let (name, rest) := labelAt rest
    done (.jump name 0 condition) rest
  match text with
  | [] => wrong "missing command" []
  | c :: rest =>
    match c with
    | '\x7b' => done (.opens 0) rest
    | 's' => substitution extended rest
    | 'y' => transformation rest
    | 'a' => (addedText rest).map fun (text, rest) ↦ (.append text, rest)
    | 'i' => (addedText rest).map fun (text, rest) ↦ (.insert text, rest)
    | 'c' => (addedText rest).map fun (text, rest) ↦ (.change text, rest)
    | 'd' => done .delete rest
    | 'D' => done .deleteFirst rest
    | 'p' => done .print rest
    | 'P' => done .printFirst rest
    | 'n' => done .next rest
    | 'N' => done .appendNext rest
    | 'q' => quits true rest
    | 'Q' => quits false rest
    | 'h' => done (.hold false) rest
    | 'H' => done (.hold true) rest
    | 'g' => done (.get false) rest
    | 'G' => done (.get true) rest
    | 'x' => done .exchange rest
    | '=' => done .number rest
    | 'F' => done .name rest
    | 'l' => done .list (cutNumber (rest.dropWhile isBlank)).2
    | 'z' => done .empty rest
    | 'r' => (fileName rest).map fun (name, rest) ↦ (.read name, rest)
    | 'w' => (fileName rest).map fun (name, rest) ↦ (.write name false, rest)
    | 'W' => (fileName rest).map fun (name, rest) ↦ (.write name true, rest)
    | 'b' => jumps none rest
    | 't' => jumps (some true) rest
    | 'T' => jumps (some false) rest
    | ':' =>
      let (name, rest) := labelAt rest
      if name.isEmpty then wrong "\":\" lacks a label" rest else done (.label name) rest
    | c => .error ⟨"unknown command: \x60".toList ++ [c, '\''], .before rest.length⟩

/-- Whether the end of a line ends a command by itself. -/
def Action.endsLine : Action → Bool
  | .append _ | .insert _ | .change _ | .opens _ | .closes => true
  | _ => false

/-- Reads commands. The depth of the braces around them is given. The fuel is the length of the text
and one more. -/
def commandsUpTo (extended : Bool) (depth : Nat) (text : Text) : Nat → Except Flaw (List Command)
  | 0 => .ok []
  | fuel + 1 => do
    let text := text.dropWhile fun c ↦ isBlank c || c == '\n' || c == ';'
    match text with
    | [] => if depth = 0 then return [] else .error ⟨"unmatched \x60\x7b'".toList, .nowhere⟩
    | '#' :: rest => commandsUpTo extended depth (rest.dropWhile (· != '\n')) fuel
    | _ =>
      let (selector, rest) ← selector extended text
      match rest with
      | '\x7d' :: rest =>
        if depth = 0 then wrong "unexpected \x60\x7d'" rest
        if selector.first.isSome then wrong "\x7d doesn't want any addresses" rest
        let others ← commandsUpTo extended (depth - 1) rest fuel
        return ⟨selector, .closes⟩ :: others
      | rest =>
        let (action, rest) ← action extended rest
        let behind := rest.dropWhile isBlank
        match behind with
        | [] => pure ()
        | c :: more =>
          if !action.endsLine && c != ';' && c != '\n' && c != '\x7d' && c != '#' then
            wrong "extra characters after command" more
        let deeper := match action with
          | .opens _ => depth + 1
          | _ => depth
        let others ← commandsUpTo extended deeper behind fuel
        return ⟨selector, action⟩ :: others

/-! ### Places -/

/-- The number of the command behind the brace that closes the one at work. -/
def closingPlace (depth index : Nat) : List Command → Nat
  | [] => index
  | command :: rest =>
    match command.action with
    | .opens _ => closingPlace (depth + 1) (index + 1) rest
    | .closes => if depth = 0 then index + 1 else closingPlace (depth - 1) (index + 1) rest
    | _ => closingPlace depth (index + 1) rest

/-- The commands with the places that jumps and braces lead to. -/
def resolve (commands : List Command) : Except Flaw (Array Command) := do
  let placed ← commands.zipIdx.mapM fun (command, index) ↦
    match command.action with
    | .opens _ =>
      .ok { command with action := .opens (closingPlace 0 (index + 1) (commands.drop (index + 1))) }
    | .jump name _ condition =>
      if name.isEmpty then .ok { command with action := .jump name commands.length condition }
      else
        match commands.findIdx? fun other ↦ other.action == .label name with
        | some target => .ok { command with action := .jump name target condition }
        | none => .error ⟨"can't find label for jump to \x60".toList ++ name ++ ['\''], .target⟩
    | _ => .ok command
  return placed.toArray

/-- The flaw of a script that is given in pieces, as it is told. -/
def flawText (pieces : List Text) (flaw : Flaw) : Text :=
  match flaw.place with
  | .target => flaw.message
  | .nowhere => "-e expression #1, char 0: ".toList ++ flaw.message
  | .before left =>
    let length := (Text.joinWith ['\n'] pieces).length
    let (number, char) := pieces.foldl (fun (number, char, found) piece ↦
      if found then (number, char, true)
      else if char ≤ piece.length then (number, char, true)
      else (number + 1, char - piece.length - 1, false)) (1, length - left, false)
      |> fun (number, char, _) ↦ (number, char)
    "-e expression #".toList ++ Text.ofNat number ++ ", char ".toList ++ Text.ofNat char
      ++ ": ".toList ++ flaw.message

/-- The status for a script with a flaw. -/
def flawStatus (flaw : Flaw) : Nat :=
  if flaw.place == .target then 4 else 1

/-- Reads a script that is given in pieces. -/
def parse (extended : Bool) (pieces : List Text) : Except Flaw (Array Command) := do
  let text := Text.joinWith ['\n'] pieces
  let commands ← commandsUpTo extended 0 text (text.length + 1)
  resolve commands

end Dialogue.Tool.Sed
