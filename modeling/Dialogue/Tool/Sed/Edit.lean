import Dialogue.Text.Bytes
import Dialogue.Tool.Input
import Dialogue.Tool.Sed.Script
import Dialogue.Tool.Switches

/-!
# Editing lines

`sed` reads line after line into its space, does the commands of a script that select the line, and
prints the space. What comes next is looked at only if a command has to know whether a line is the
last one, so that lines that are sent one by one are answered one by one.
-/

set_option autoImplicit false
set_option relaxedAutoImplicit false

namespace Dialogue.Tool.Sed

open Dialogue.Machine

/-- How lines are edited. -/
structure Style where
  /-- Whether only what commands print is printed. -/
  quiet : Bool
  /-- Whether every line is written at once. -/
  unbuffered : Bool
  /-- Whether each input has lines of its own. -/
  separate : Bool
  /-- Whether files are replaced by what comes of them. -/
  inPlace : Bool
  deriving Repr, DecidableEq, Inhabited

/-- What is printed behind a line. -/
inductive Queued where
  | text (text : Text)
  | file (name : Text)
  deriving Repr, DecidableEq, Inhabited

/-- Where editing stands. -/
structure Edit where
  space : Text
  /-- Whether a line break ended the line that was read last. -/
  isEnded : Bool
  hold : Text
  line : Nat
  queue : List Queued
  /-- Whether something was replaced since the last line was read. -/
  replaced : Bool
  /-- The commands whose ranges have begun, each with the number of its last line, if it has one. -/
  ranges : List (Nat × Option Nat)
  /-- The pattern that was used last. -/
  pattern : Option Regex.Pattern
  /-- Whether the line break is missing behind what was printed last. -/
  missing : Bool
  /-- The inputs that are still to be opened. -/
  names : List Text
  name : Text
  stream : Option Nat
  unread : Text
  status : Nat
  /-- The files that commands write to. -/
  outputs : List (Text × Nat)
  /-- What has come of the file at work, the last piece first, if it is to be replaced. -/
  result : Option (List Text)
  deriving Repr, DecidableEq, Inhabited

namespace Edit

/-- Nothing has been read yet. -/
def start (names : List Text) (ranges : List (Nat × Option Nat)) (outputs : List (Text × Nat)) :
    Edit where
  space := []
  isEnded := true
  hold := []
  line := 0
  queue := []
  replaced := false
  ranges := ranges
  pattern := none
  missing := false
  names := names
  name := ['-']
  stream := none
  unread := []
  status := 0
  outputs := outputs
  result := none

/-! ### Printing -/

/-- Prints bytes as they are, behind a line break if one is missing. -/
def emitBytes (style : Style) (edit : Edit) (bytes : Text) : Work Edit := do
  let whole := (if edit.missing then ['\n'] else []) ++ bytes
  let edit := { edit with missing := false }
  match edit.result with
  | some pieces => return { edit with result := some (whole :: pieces) }
  | none =>
    Work.put whole
    if style.unbuffered then Work.flush
    return edit

/-- Prints a text, with a line break if it is to be ended. -/
def emit (style : Style) (edit : Edit) (text : Text) (isEnded : Bool) : Work Edit := do
  let edit ← edit.emitBytes style (Text.scatter text ++ if isEnded then ['\n'] else [])
  return { edit with missing := !isEnded }

/-- Writes a text to a file of the script, with a line break if it is to be ended. -/
def emitTo (style : Style) (edit : Edit) (file text : Text) (isEnded : Bool) : Work Edit := do
  if file == "/dev/stdout".toList then edit.emit style text isEnded
  else
    match edit.outputs.lookup file with
    | none => return edit
    | some stream =>
      let _ ← Work.writeTo stream (Text.scatter text ++ if isEnded then ['\n'] else [])
      return edit

/-- Prints what is to follow a line. -/
def emitQueue (style : Style) (edit : Edit) : Work Edit := do
  let edit ← Work.fold (fun (edit : Edit) queued ↦ do
    match queued with
    | .text text =>
      if text.isEmpty then return edit
      else edit.emit style text.dropLast true
    | .file name =>
      match ← Work.readInput name with
      | .error _ => return edit
      | .ok [] => return edit
      | .ok bytes => edit.emitBytes style bytes) edit edit.queue
  return { edit with queue := [] }

/-! ### Reading -/

/-- Puts what has come of a file in its place. -/
def closeFile (edit : Edit) : Work Edit := do
  match edit.result with
  | none => return edit
  | some pieces =>
    match ← Work.openFile edit.name .write with
    | .ok stream =>
      let _ ← Work.writeTo stream pieces.reverse.flatten
      Work.close stream
    | .error _ => pure ()
    return { edit with result := none, missing := false }

/-- Opens the next input. -/
def openNext (style : Style) (edit : Edit) (name : Text) (rest : List Text) : Work Edit := do
  let edit ← edit.closeFile
  let edit := { edit with names := rest }
  match ← Work.openInput name with
  | .error error =>
    Work.complain ("can't read ".toList ++ name ++ ": ".toList ++ error.wording)
    return { edit with status := 2 }
  | .ok stream =>
    return { edit with
      name := name
      stream := some stream
      line := if style.separate then 0 else edit.line
      result := if style.inPlace then some [] else none }

/-- Reads on until a line is there, and tells whether one is. Other inputs are opened if that is
wanted. -/
def fill (style : Style) (opens : Bool) (edit : Edit) : Work (Edit × Bool) :=
  Work.loop (fun (edit : Edit) ↦ do
    if edit.unread.contains '\n' then return .inr (edit, true)
    match edit.stream with
    | some stream =>
      match ← Work.read stream with
      | .text text => return .inl { edit with unread := edit.unread ++ text }
      | .finish =>
        Work.closeInput edit.name stream
        return .inl { edit with stream := none }
      | .refused error =>
        Work.complain ((if error == .isADirectory then "couldn't read ".toList
          else "read error on ".toList) ++ edit.name ++ ": ".toList ++ error.wording)
        return .inl { edit with stream := none, status := 2 }
    | none =>
      if !edit.unread.isEmpty then return .inr (edit, true)
      match edit.names with
      | [] => return .inr (edit, false)
      | name :: rest =>
        if opens then return .inl (← edit.openNext style name rest) else return .inr (edit, false))
    edit

/-- Whether there is another line. -/
def hasNext (style : Style) (edit : Edit) : Work (Edit × Bool) :=
  edit.fill style (!style.separate)

/-- Reads the next line into the space, unless there is none. -/
def readLine (style : Style) (edit : Edit) : Work (Edit × Bool) := do
  let edit ← edit.emitQueue style
  let (edit, found) ← edit.fill style true
  if !found then return (edit, false)
  let line := edit.unread.takeWhile (· != '\n')
  let rest := edit.unread.drop line.length
  return ({ edit with
    space := Text.gather line
    isEnded := !rest.isEmpty
    line := edit.line + 1
    replaced := false
    unread := rest.drop 1 }, true)

/-! ### Selecting lines -/

/-- Whether the line at work is described by an address. -/
def isAt (style : Style) (edit : Edit) (address : Address) : Work (Edit × Bool) := do
  match address with
  | .line n => return (edit, edit.line = n)
  | .step first step =>
    return (edit, if step = 0 then edit.line = first
      else first ≤ edit.line && (edit.line - first) % step = 0)
  | .last =>
    let (edit, found) ← edit.hasNext style
    return (edit, !found)
  | .match' pattern =>
    match pattern <|> edit.pattern with
    | none => Work.fail "no previous regular expression".toList 1
    | some pattern =>
      return ({ edit with pattern := some pattern }, (pattern.search edit.space).isSome)

/-- The edit with the range of a command begun. -/
def begin (edit : Edit) (index : Nat) (last : Option Nat) : Edit :=
  { edit with ranges := (index, last) :: edit.ranges }

/-- The edit with the range of a command ended. -/
def finish (edit : Edit) (index : Nat) : Edit :=
  { edit with ranges := edit.ranges.filter fun (other, _) ↦ other ≠ index }

/-- Whether the line at work is in a range, which may begin or end with it. -/
def isWithin (style : Style) (edit : Edit) (index : Nat) (first : Address) (limit : Limit) :
    Work (Edit × Bool) := do
  match edit.ranges.lookup index with
  | some (some last) =>
    return (if last ≤ edit.line then edit.finish index else edit, edit.line ≤ last)
  | some none =>
    match limit with
    | .at address =>
      let (edit, found) ← edit.isAt style address
      return (if found then edit.finish index else edit, true)
    | _ => return (edit, true)
  | none =>
    let (edit, found) ← edit.isAt style first
    if !found then return (edit, false)
    let upTo (last : Nat) : Edit := if edit.line < last then edit.begin index (some last) else edit
    return (match limit with
      | .plus count => upTo (edit.line + count)
      | .multiple n => if n = 0 then edit else upTo ((edit.line + n - 1) / n * n)
      | .at (.line n) => upTo n
      | .at _ => edit.begin index none, true)

/-- Whether a command is for the line at work. -/
def selects (style : Style) (edit : Edit) (index : Nat) (selector : Selector) :
    Work (Edit × Bool) := do
  let (edit, found) ← match selector.first, selector.limit with
    | none, _ => pure (edit, true)
    | some address, none => edit.isAt style address
    | some address, some limit => edit.isWithin style index address limit
  return (edit, found != selector.negated)

end Edit

/-! ### Replacing -/

/-- A text in the case that is asked for: for the next letter, and for all. -/
def inCase (next all : CaseChange) (text : Text) : Text :=
  let change (change : CaseChange) (c : Char) : Char :=
    match change with
    | .upper | .nextUpper => c.toUpper
    | .lower | .nextLower => c.toLower
    | .none => c
  match text with
  | [] => []
  | c :: rest =>
    (if next == .none then change all c else change next c) :: rest.map (change all)

/-- What a match is replaced by. -/
def replacementText (pieces : List Replacement) (found : Regex.Match) : Text :=
  let add (next all : CaseChange) (texts : List Text) (text : Text) :
      CaseChange × CaseChange × List Text :=
    if text.isEmpty then (next, all, texts) else (.none, all, inCase next all text :: texts)
  let (_, _, texts) := pieces.foldl (fun (next, all, texts) piece ↦
    match piece with
    | .text text => add next all texts text
    | .group n => add next all texts (found.group n)
    | .change change =>
      match change with
      | .nextUpper | .nextLower => (change, all, texts)
      | _ => (.none, change, texts)) (CaseChange.none, CaseChange.none, ([] : List Text))
  texts.reverse.flatten

/-- A text with matches replaced. -/
def replaceMatches (pieces : List Replacement) (position : Nat) (text : Text) :
    List Regex.Match → Text
  | [] => text
  | found :: rest =>
    let front := text.take (found.start.index - position)
    front ++ replacementText pieces found
      ++ replaceMatches pieces found.stop.index (text.drop (found.stop.index - position)) rest

/-- A text as it is replaced, if it matches. -/
def Substitution.apply? (substitution : Substitution) (pattern : Regex.Pattern) (text : Text) :
    Option Text :=
  let found := if substitution.all || 1 < substitution.from' then
      (pattern.matchesIn text).drop (substitution.from' - 1)
    else (pattern.search text).toList
  let wanted := if substitution.all then found else found.take 1
  if wanted.isEmpty then none else some (replaceMatches substitution.pieces 0 text wanted)

/-- A character as it is listed. -/
def listedChar (c : Char) : Text :=
  match c with
  | '\\' => ['\\', '\\']
  | '\n' => ['\\', 'n']
  | '\t' => ['\\', 't']
  | '\r' => ['\\', 'r']
  | c =>
    match c.toNat with
    | 7 => ['\\', 'a']
    | 8 => ['\\', 'b']
    | 11 => ['\\', 'v']
    | 12 => ['\\', 'f']
    | n =>
      if 32 ≤ n && n < 127 then [c]
      else
        let digits := Nat.toDigits 8 n
        '\\' :: List.replicate (3 - digits.length) '0' ++ digits

/-- A text as it is listed, in lines of limited width. -/
def listed (text : Text) : Text :=
  let (_, pieces) := (Text.scatter text).foldl (fun (width, pieces) c ↦
    let shown := listedChar c
    if 69 < width + shown.length then (shown.length, shown :: ['\\', '\n'] :: pieces)
    else (width + shown.length, shown :: pieces)) (0, ([] : List Text))
  pieces.reverse.flatten ++ ['$']

/-! ### Commands -/

/-- How a script goes on. -/
inductive Flow where
  | to (place : Nat)
  /-- With the next line, and with the space printed or not. -/
  | nextLine (prints : Bool)
  /-- With what is left in the space. -/
  | again
  | quits (status : Option Nat) (prints : Bool)
  deriving Repr, DecidableEq, Inhabited

/-- Prints the space, unless only commands print. -/
def Edit.autoPrint (style : Style) (edit : Edit) : Work Edit :=
  if style.quiet then pure edit else edit.emit style edit.space edit.isEnded

/-- Does what a command does. -/
def Action.perform (style : Style) (index : Nat) (edit : Edit) : Action → Work (Edit × Flow)
  | .opens _ | .closes | .label _ => pure (edit, .to (index + 1))
  | .substitute substitution => do
    match substitution.pattern <|> edit.pattern with
    | none => Work.fail "no previous regular expression".toList 1
    | some pattern =>
      let edit := { edit with pattern := some pattern }
      match substitution.apply? pattern edit.space with
      | none => return (edit, .to (index + 1))
      | some text =>
        let edit := { edit with space := text, replaced := true }
        let edit ← if substitution.prints then edit.emit style text edit.isEnded
          else pure edit
        let edit ← match substitution.file with
          | some file => edit.emitTo style file text edit.isEnded
          | none => pure edit
        return (edit, .to (index + 1))
  | .transform pairs =>
    pure ({ edit with space := edit.space.map fun c ↦ (pairs.lookup c).getD c }, .to (index + 1))
  | .append text => pure ({ edit with queue := edit.queue ++ [.text text] }, .to (index + 1))
  | .read file => pure ({ edit with queue := edit.queue ++ [.file file] }, .to (index + 1))
  | .insert text => do
    let edit ← if text.isEmpty then pure edit else edit.emit style text.dropLast true
    return (edit, .to (index + 1))
  | .change text => do
    let shown := (edit.ranges.lookup index).isNone && !text.isEmpty
    return (← if shown then edit.emit style text.dropLast true else pure edit, .nextLine false)
  | .delete => pure (edit, .nextLine false)
  | .deleteFirst =>
    match edit.space.dropWhile (· != '\n') with
    | [] => pure (edit, .nextLine false)
    | _ :: rest => pure ({ edit with space := rest }, .again)
  | .print => do return (← edit.emit style edit.space edit.isEnded, .to (index + 1))
  | .printFirst => do
    return (← edit.emit style (edit.space.takeWhile (· != '\n')) true, .to (index + 1))
  | .next => do
    let (edit, found) ← edit.hasNext style
    if !found && edit.names.isEmpty then return (edit, .quits none true)
    let edit ← edit.autoPrint style
    let (edit, _) ← edit.readLine style
    return (edit, .to (index + 1))
  | .appendNext => do
    let (edit, found) ← edit.hasNext style
    if !found && edit.names.isEmpty then return (edit, .quits none true)
    let first := edit.space
    let (edit, _) ← edit.readLine style
    return ({ edit with space := first ++ '\n' :: edit.space }, .to (index + 1))
  | .quit status prints => pure (edit, .quits (some status) prints)
  | .hold appends =>
    pure ({ edit with hold := if appends then edit.hold ++ '\n' :: edit.space else edit.space },
      .to (index + 1))
  | .get appends =>
    pure ({ edit with space := if appends then edit.space ++ '\n' :: edit.hold else edit.hold },
      .to (index + 1))
  | .exchange => pure ({ edit with space := edit.hold, hold := edit.space }, .to (index + 1))
  | .number => do return (← edit.emit style (Text.ofNat edit.line) true, .to (index + 1))
  | .name => do return (← edit.emitBytes style (edit.name ++ ['\n']), .to (index + 1))
  | .list => do return (← edit.emit style (listed edit.space) true, .to (index + 1))
  | .empty => pure ({ edit with space := [] }, .to (index + 1))
  | .write file first => do
    let text := if first then edit.space.takeWhile (· != '\n') else edit.space
    return (← edit.emitTo style file text (first || edit.isEnded), .to (index + 1))
  | .jump _ target condition =>
    match condition with
    | none => pure (edit, .to target)
    | some wanted =>
      pure ({ edit with replaced := false },
        .to (if edit.replaced == wanted then target else index + 1))

/-- Runs a script up to the end of all lines: the last edit and the status. -/
def runScript (style : Style) (script : Array Command) (edit : Edit) : Work (Edit × Nat) := do
  let (edit, found) ← edit.readLine style
  if !found then return (edit, edit.status)
  Work.loop (fun (edit, place) ↦ do
    let (edit, flow) ← match script[place]? with
      | none => pure (edit, Flow.nextLine true)
      | some command => do
        let (edit, selected) ← edit.selects style place command.selector
        match command.action with
        | .opens target => pure (edit, Flow.to (if selected then place + 1 else target))
        | action =>
          if selected then action.perform style place edit else pure (edit, Flow.to (place + 1))
    match flow with
    | .to place => return .inl (edit, place)
    | .again => return .inl (← edit.emitQueue style, 0)
    | .nextLine prints =>
      let edit ← if prints then edit.autoPrint style else pure edit
      let (edit, found) ← edit.readLine style
      return if found then .inl (edit, 0) else .inr (edit, edit.status)
    | .quits status prints =>
      let edit ← if prints then edit.autoPrint style else pure edit
      let edit ← if prints then edit.emitQueue style else pure edit
      if edit.stream == some 0 then Work.giveBack 0 edit.unread.length
      return .inr (edit, status.getD edit.status)) (edit, 0)

/-! ### The tool -/

/-- The switches of an edit. -/
def switches : List Switch :=
  [.flag "n" "quiet", .flag "" "silent", .flag "u" "unbuffered", .flag "s" "separate",
    .flag "rE" "regexp-extended", .maybe "i" "in-place", .value "e" "expression",
    .value "f" "file", .flag "z" "null-data", .flag "" "posix", .flag "" "debug",
    .flag "" "sandbox", .value "l" "line-length"]

/-- The files that the commands of a script write to. -/
def filesOf (script : Array Command) : List Text :=
  (script.toList.filterMap fun command ↦
    match command.action with
    | .write file _ => some file
    | .substitute substitution => substitution.file
    | _ => none).eraseDups

/-- Edits the lines of its inputs. -/
def sed (words : List Text) : Work Nat := do
  let choices ← Work.choices switches false words 1
  let pieces ← Work.fold (fun pieces (key, value) ↦ do
    if key == "expression" then return pieces ++ [value]
    else if key == "file" then
      match ← Work.readInput value with
      | .ok text =>
        return pieces ++ [if text.getLast? == some '\n' then text.dropLast else text]
      | .error error =>
        Work.fail ("couldn't open file ".toList ++ value ++ ": ".toList ++ error.wording) 1
    else return pieces) ([] : List Text) choices.given
  let (pieces, operands) ← match pieces, choices.operands with
    | [], script :: operands => pure ([script], operands)
    | [], [] => do
      Work.report
        "Usage: sed [OPTION]... {script-only-if-no-other-script} [input-file]...\n".toList
      Work.stop 1
    | pieces, operands => pure (pieces, operands)
  let pieces := pieces.map Text.gather
  let script ← match parse (choices.has "regexp-extended") pieces with
    | .ok script => pure script
    | .error flaw => Work.fail (Text.scatter (flawText pieces flaw)) (flawStatus flaw)
  let inPlace := choices.has "in-place"
  if inPlace && operands.isEmpty then Work.fail "no input files".toList 1
  let quietMark := (pieces.headD []).take 3 == "#n\n".toList || pieces.headD [] == "#n".toList
  let style : Style :=
    { quiet := choices.has "quiet" || choices.has "silent" || quietMark
      unbuffered := choices.has "unbuffered"
      separate := choices.has "separate" || inPlace
      inPlace := inPlace }
  let outputs ← Work.fold (fun outputs name ↦ do
    if name == "/dev/stdout".toList then return outputs
    match ← Work.openFile name .write with
    | .ok stream => return (name, stream) :: outputs
    | .error error =>
      Work.fail ("couldn't open file ".toList ++ name ++ ": ".toList ++ error.wording) 4)
    ([] : List (Text × Nat)) (filesOf script)
  let ranges := script.toList.zipIdx.filterMap fun (command, index) ↦
    if command.selector.first == some (.line 0) then some (index, none) else none
  let (edit, status) ← runScript style script (.start (inputsOf operands) ranges outputs)
  let _ ← edit.closeFile
  return status

end Dialogue.Tool.Sed
