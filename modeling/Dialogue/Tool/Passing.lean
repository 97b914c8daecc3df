import Dialogue.Tool.Input
import Dialogue.Tool.Switches

/-!
# Tools that pass lines on

Tools that print what they read, or the beginning or the end of it, with the lines as they are or
turned round: `cat`, `tee`, `head`, `tail`, `tac`, `rev`, `yes`.
-/

set_option autoImplicit false
set_option relaxedAutoImplicit false

namespace Dialogue.Tool

open Dialogue.Machine

/-! ### Copies -/

/-- How lines are shown while they are copied. -/
structure CopyStyle where
  numbersAll : Bool
  numbersFilled : Bool
  showsEnds : Bool
  showsTabs : Bool
  showsControls : Bool
  /-- Whether several empty lines become one. -/
  squeezes : Bool
  deriving Repr, DecidableEq, Inhabited

/-- How far a copy has come. -/
structure CopyState where
  number : Nat
  atStart : Bool
  afterEmpty : Bool
  deriving Repr, DecidableEq, Inhabited

/-- A character that is shown by printable ones. -/
def shownControl (c : Char) : Text :=
  let n := c.toNat
  let low (n : Nat) : Text :=
    if n < 32 then ['^', Char.ofNat (n + 64)]
    else if n = 127 then ['^', '?']
    else [Char.ofNat n]
  if n < 128 then low n else 'M' :: '-' :: low (n - 128)

namespace CopyStyle

/-- Whether characters are copied as they are. -/
def isPlain (style : CopyStyle) : Bool :=
  style == ⟨false, false, false, false, false, false⟩

/-- A character as it is shown. -/
def shown (style : CopyStyle) (c : Char) : Text :=
  if c == '\t' then (if style.showsTabs then ['^', 'I'] else ['\t'])
  else if style.showsControls then shownControl c
  else [c]

/-- The number of a line, in front of it. -/
def numbered (n : Nat) : Text :=
  let digits := Text.ofNat n
  List.replicate (6 - digits.length) ' ' ++ digits ++ ['\t']

/-- Copies a character. -/
def copyChar (style : CopyStyle) (state : CopyState) (c : Char) : CopyState × Text :=
  let isEmpty := state.atStart && c == '\n'
  if isEmpty && state.afterEmpty && style.squeezes then (state, [])
  else
    let counts := state.atStart
      && (if style.numbersFilled then !isEmpty else style.numbersAll)
    let front := if counts then numbered state.number else []
    let number := if counts then state.number + 1 else state.number
    if c == '\n' then
      (⟨number, true, isEmpty⟩, front ++ if style.showsEnds then ['$', '\n'] else ['\n'])
    else (⟨number, false, false⟩, front ++ style.shown c)

/-- Copies a text. -/
def copy (style : CopyStyle) (state : CopyState) (text : Text) : CopyState × Text :=
  if style.isPlain then (state, text)
  else
    let (state, pieces) := text.foldl (fun (state, pieces) c ↦
      let (state, piece) := style.copyChar state c
      (state, piece :: pieces)) (state, ([] : List Text))
    (state, pieces.reverse.flatten)

end CopyStyle

/-- Copies files to the output. -/
def cat (words : List Text) : Work Nat := do
  let choices ← Work.choices
    ([.flag "A" "show-all", .flag "b" "number-nonblank", .flag "E" "show-ends", .flag "n" "number",
      .flag "s" "squeeze-blank", .flag "T" "show-tabs", .flag "v" "show-nonprinting"]
      ++ Switch.plain "etu") false words 1
  let all := choices.has "show-all"
  let style : CopyStyle :=
    { numbersAll := choices.has "number"
      numbersFilled := choices.has "number-nonblank"
      showsEnds := all || choices.has "show-ends" || choices.has "e"
      showsTabs := all || choices.has "show-tabs" || choices.has "t"
      showsControls := all || choices.has "show-nonprinting" || choices.has "e" || choices.has "t"
      squeezes := choices.has "squeeze-blank" }
  Work.holdNothing
  let (_, status) ← Work.fold (fun (state, status) name ↦ do
    let refused (error : FileError) (state : CopyState) : Work (CopyState × Nat) := do
      Work.complain (shownName name ++ ": ".toList ++ error.wording)
      return (state, 1)
    match ← Work.openInput name with
    | .error error => refused error state
    | .ok stream =>
      let (state, error) ← Work.loop (fun state ↦ do
        match ← Work.read stream with
        | .text text =>
          let (state, shown) := style.copy state text
          Work.put shown
          return .inl state
        | .finish => return .inr (state, none)
        | .refused error => return .inr (state, some error)) state
      Work.closeInput name stream
      match error with
      | some error => refused error state
      | none => return (state, status))
    ((⟨1, true, false⟩ : CopyState), 0) (inputsOf choices.operands)
  return status

/-- Copies the input to the output and to files. -/
def tee (words : List Text) : Work Nat := do
  let choices ← Work.choices
    [.flag "a" "append", .flag "i" "ignore-interrupts", .maybe "p" "output-error"] false words 1
  let access : Access := if choices.has "append" then .append else .write
  let (streams, status) ← Work.fold (fun (streams, status) name ↦ do
    match ← Work.openFile name access with
    | .ok stream => return (streams ++ [stream], status)
    | .error error =>
      Work.complain (shownName name ++ ": ".toList ++ error.wording)
      return (streams, 1)) (([] : List Nat), 0) choices.operands
  Work.holdNothing
  Work.loop (fun () ↦ do
    match ← Work.read 0 with
    | .text text =>
      Work.put text
      let _ ← Work.fold (fun () stream ↦ do
        let _ ← Work.writeTo stream text
        return ()) () streams
      return .inl ()
    | .finish | .refused _ => return .inr status) ()

/-! ### Beginnings -/

/-- What the letters behind an amount multiply it by. -/
def multipliers : List (String × Nat) :=
  [("", 1), ("b", 512), ("k", 1024), ("K", 1024), ("KiB", 1024), ("kB", 1000), ("KB", 1000),
    ("m", 1048576), ("M", 1048576), ("MiB", 1048576), ("MB", 1000000), ("G", 1073741824),
    ("GB", 1000000000)]

/-- The amount that a word stands for. -/
def amount? (word : Text) : Option Nat := do
  let digits := word.takeWhile Char.isDigit
  let n ← Text.toNat? 10 digits
  let factor ← multipliers.lookup (String.ofList (word.drop digits.length))
  return n * factor

/-- How much of each input is passed on. -/
structure Extent where
  count : Nat
  /-- Whether bytes are counted instead of lines. -/
  inBytes : Bool
  /-- Whether the count is seen from the other end. -/
  isOpposite : Bool
  deriving Repr, DecidableEq, Inhabited

/-- The extent that a word asks for, with the sign that turns it round. -/
def extentOf (sign : Char) (inBytes : Bool) (word : Text) : Except Text Extent :=
  let (isOpposite, plain) := match word with
    | c :: rest =>
      if c == sign then (true, rest) else if c == '-' then (false, rest) else (false, word)
    | [] => (false, word)
  match amount? plain with
  | some n => .ok ⟨n, inBytes, isOpposite⟩
  | none =>
    .error ("invalid number of ".toList ++ (if inBytes then "bytes" else "lines").toList
      ++ ": ".toList ++ quotedWord word)

/-- The words with a count of the old form, such as a hyphen with digits, in today's form. -/
def modernWords (plus : Bool) : List Text → List Text
  | (c :: digits) :: rest =>
    let count := digits.takeWhile Char.isDigit
    let letter := digits.drop count.length
    if (c == '-' || (c == '+' && plus)) && !count.isEmpty then
      let value := if c == '+' then '+' :: count else count
      if letter.isEmpty || letter == ['l'] then ['-', 'n'] :: value :: rest
      else if letter == ['c'] then ['-', 'c'] :: value :: rest
      else (c :: digits) :: rest
    else (c :: digits) :: rest
  | words => words

/-- What is shown in front of an input if there are several. -/
def heading (first : Bool) (name : Text) : Text :=
  (if first then [] else ['\n']) ++ "==> ".toList
    ++ (if name == ['-'] then "standard input".toList else name) ++ " <==\n".toList

/-- The switches of tools that pass a part on. -/
def extentSwitches : List Switch :=
  [.value "n" "lines", .value "c" "bytes", .flag "q" "quiet", .flag "" "silent",
    .flag "v" "verbose", .flag "fF" "follow", .value "s" "sleep-interval"]

/-- The extent that switches ask for. -/
def chosenExtent (sign : Char) (choices : Choices) : Work Extent :=
  let key := (choices.lastOf? ["lines", "bytes"]).getD "lines"
  match choices.last? key with
  | none => pure ⟨10, false, false⟩
  | some word =>
    match extentOf sign (key == "bytes") word with
    | .ok extent => pure extent
    | .error message => Work.fail message 1

/-- Passes a part of each input on. -/
def passParts (choices : Choices) (pass : Nat → Work (Option FileError)) : Work Nat := do
  let names := inputsOf choices.operands
  let quiet := choices.has "quiet" || choices.has "silent"
  let headed := choices.has "verbose" || (1 < names.length && !quiet)
  let (_, status) ← Work.fold (fun (first, status) name ↦ do
    match ← Work.openInput name with
    | .error error =>
      Work.complain ("cannot open ".toList ++ quotedName name ++ " for reading: ".toList
        ++ error.wording)
      return (first, 1)
    | .ok stream =>
      if headed then Work.put (heading first name)
      let error ← pass stream
      Work.closeInput name stream
      match error with
      | none => return (false, status)
      | some error =>
        Work.complain ("error reading ".toList ++ quotedName name ++ ": ".toList ++ error.wording)
        return (false, 1)) (true, 0) names
  return status

/-- Passes a number of lines on. -/
def passLines (stream count : Nat) : Work (Option FileError) := do
  if count = 0 then return none
  let (_, error) ← Work.eachLine stream (fun left line ↦ do
    Work.put line.whole
    return if left = 1 then .inr 0 else .inl (left - 1)) count
  return error

/-- Passes a number of bytes on. -/
def passBytes (stream count : Nat) : Work (Option FileError) :=
  Work.loop (fun left ↦ do
    if left = 0 then return .inr none
    match ← Work.read stream with
    | .text text =>
      Work.put (text.take left)
      Work.giveBack stream (text.length - left)
      return .inl (left - text.length)
    | .finish => return .inr none
    | .refused error => return .inr (some error)) count

/-- Prints the beginning of each input. -/
def head (words : List Text) : Work Nat := do
  let choices ← Work.choices extentSwitches false (modernWords false words) 1
  let extent ← chosenExtent '-' choices
  passParts choices fun stream ↦
    if extent.isOpposite then do
      let (text, error) ← Work.readAll stream
      let kept := if extent.inBytes then text.take (text.length - extent.count)
        else
          let lines := Line.cut '\n' text
          (lines.take (lines.length - extent.count)).flatMap Line.whole
      Work.put kept
      return error
    else if extent.inBytes then passBytes stream extent.count
    else passLines stream extent.count

/-! ### Ends -/

/-- The end of a text. -/
def ending (extent : Extent) (text : Text) : Text :=
  if extent.inBytes then text.drop (text.length - extent.count)
  else
    let lines := Line.cut '\n' text
    (lines.drop (lines.length - extent.count)).flatMap Line.whole

/-- Prints the end of each input. -/
def tail (words : List Text) : Work Nat := do
  let choices ← Work.choices extentSwitches false (modernWords true words) 1
  let extent ← chosenExtent '+' choices
  let status ← passParts choices fun stream ↦
    if extent.isOpposite && !extent.inBytes then do
      let (_, error) ← Work.eachLine stream (fun skipped line ↦ do
        if skipped = 0 then Work.put line.whole
        return .inl (skipped - 1)) (extent.count - 1)
      return error
    else do
      let (text, error) ← Work.readAll stream
      Work.put (if extent.isOpposite then text.drop (extent.count - 1) else ending extent text)
      return error
  if choices.has "follow" && choices.operands.any (· != ['-']) then Work.rest
  return status

/-! ### Lines turned round -/

/-- Prints the lines of each input, the last one first. -/
def tac (words : List Text) : Work Nat := do
  let choices ← Work.choices [.flag "b" "before", .flag "r" "regex", .value "s" "separator"] false
    words 1
  Work.fold (fun status name ↦ do
    match ← Work.readInput name with
    | .ok text =>
      Work.put ((Line.cut '\n' text).reverse.flatMap Line.whole)
      return status
    | .error .isADirectory =>
      Work.complain (shownName name ++ ": read error: ".toList ++ FileError.isADirectory.wording)
      return 1
    | .error error =>
      Work.complain ("failed to open ".toList ++ quotedName name ++ " for reading: ".toList
        ++ error.wording)
      return 1) 0 (inputsOf choices.operands)

/-- Prints each line from its end to its beginning. -/
def rev (words : List Text) : Work Nat := do
  let choices ← Work.choices [] false words 1
  Work.fold (fun status name ↦ do
    match ← Work.openInput name with
    | .error error =>
      Work.complain ("cannot open ".toList ++ name ++ ": ".toList ++ error.wording)
      return 1
    | .ok stream =>
      let _ ← Work.eachLine stream (fun () line ↦ do
        Work.put ({ line with text := Text.scatter (Text.gather line.text).reverse } : Line).whole
        return .inl ()) ()
      Work.closeInput name stream
      return status) 0 (inputsOf choices.operands)

/-- Prints its words again and again. -/
def yes (words : List Text) : Work Nat := do
  let choices ← Work.choices [] true words 1
  let operands := choices.operands
  let line := (if operands.isEmpty then ['y'] else Text.joinWith [' '] operands) ++ ['\n']
  let block := (List.replicate (8192 / line.length + 1) line).flatten
  Work.loop (fun () ↦ do
    Work.put block
    return .inl ()) ()

end Dialogue.Tool
