import Dialogue.Script.Basic
import Dialogue.Text.Blank

/-!
# Reading scripts

A script file holds one case a line, an expectation and the input that leads to it:

    <"first argument";"second argument">
    # a remark
    "5" : "add 2 3"
    00err : "div 1 0"

The physical lines are gathered into logical ones first, because a quoted expectation may run over
several lines (`gather`). Each logical line is then classified by itself (`classify`), and the
entries of the lines are put together in their order (`entriesOf`). A file is read as a whole or not
at all: `parse` gives the script, or the first thing that is wrong with the file.
-/

set_option autoImplicit false
set_option relaxedAutoImplicit false

namespace Dialogue.Script

open Text

/-! ### Parts of a line -/

/-- The text between two quotes, if it is not empty and holds no quote itself. -/
def unquote? : Text → Option Text
  | '"' :: rest =>
    let body := rest.dropLast
    if rest.getLast? = some '"' ∧ body ≠ [] ∧ '"' ∉ body then some body else none
  | _ => none

/-- What follows a run of at least one blank. -/
def afterBlanks? : Text → Option Text
  | [] => none
  | c :: rest => if isBlank c then some (rest.dropWhile isBlank) else none

/-- The input of a case, read from behind its expectation: a colon between blanks, and then the
input in quotes up to the end of the line. -/
def readInput? (text : Text) : Option Text := do
  let text ← afterBlanks? text
  let text ← afterStart? [':'] text
  let text ← afterBlanks? text
  unquote? text

/-- An expectation as it is written. -/
inductive Token where
  /-- A word without quotes. -/
  | bare (word : Text)
  /-- Anything between quotes. -/
  | quoted (text : Text)
  deriving Repr, DecidableEq

/-- Whether a word is an integer or a decimal fraction, with or without a minus sign. -/
def isNumeral (word : Text) : Bool :=
  let digits := (afterStart? ['-'] word).getD word
  !(digits.takeWhile isDigit).isEmpty &&
    match digits.dropWhile isDigit with
    | [] => true
    | '.' :: fraction => !fraction.isEmpty && fraction.all isDigit
    | _ => false

/-- Whether a word may be an expectation without quotes. -/
def isBareWord (word : Text) : Bool :=
  word == "null".toList || word == "true".toList || word == "false".toList ||
    word == errorSentinel || isNumeral word

/-- The expectation that a line begins with, and what follows it. -/
def readToken? : Text → Option (Token × Text)
  | '"' :: rest =>
    match rest.dropWhile (· != '"') with
    | [] => none
    | _ :: after => some (.quoted (rest.takeWhile (· != '"')), after)
  | line =>
    let word := line.takeWhile (!isBlank ·)
    if isBareWord word then some (.bare word, line.dropWhile (!isBlank ·)) else none

/-- Whether the options in front of a quoted expectation make case irrelevant, and the pattern
behind them. Every exclamation mark is an option, of which `!C` alone has an effect. -/
def readOptions : Text → Bool × Text
  | '!' :: 'C' :: rest => (true, (readOptions rest).2)
  | '!' :: rest => readOptions rest
  | pattern => (false, pattern)

/-- The step that an expectation stands for. -/
def Token.step : Token → Step
  | bare word => .expect word (if word = errorSentinel then .errorSentinel else .exact)
  | quoted text =>
    match readOptions text with
    | (true, pattern) => .expect pattern .caseInsensitive
    | (false, pattern) =>
      .expect pattern (if pattern = errorSentinel then .errorSentinel else .exact)

/-! ### Logical lines -/

/-- A line that may have been gathered from several physical ones, with the number of the first. -/
structure LogicalLine where
  number : Nat
  text : Text
  deriving Repr, DecidableEq

/-- Whether a line opens a quote and does not close it. -/
def opensBlock : Text → Bool
  | '"' :: rest => '"' ∉ rest
  | _ => false

/-- Whether a line closes a quote that was opened before it, and ends a case. -/
def closesBlock (line : Text) : Bool :=
  match line.dropWhile (· != '"') with
  | [] => false
  | _ :: rest => (readInput? rest).isSome

/-- The logical lines of the physical lines from a number on, `block` being what has been gathered
of a quote that is still open. A block that is never closed is no line at all; a quote that is
opened in the last line is an ordinary line. -/
def gather (number : Nat) (block : Option LogicalLine) : List Text → List LogicalLine
  | [] => []
  | line :: rest =>
    match block with
    | some opened =>
      let grown := { opened with text := opened.text ++ '\n' :: line }
      if closesBlock line then grown :: gather (number + 1) none rest
      else gather (number + 1) (some grown) rest
    | none =>
      if opensBlock line && !rest.isEmpty then gather (number + 1) (some ⟨number, line⟩) rest
      else ⟨number, line⟩ :: gather (number + 1) none rest

/-- What a logical line is. -/
inductive LineKind where
  /-- An input and the output that it leads to. -/
  | case (input : Text) (expected : Step)
  | arguments (values : List Text)
  /-- A comment or a blank line. -/
  | remark
  | unknown
  deriving Repr, DecidableEq

/-- The case that a line writes. -/
def readCase? (line : Text) : Option (Text × Step) := do
  let (token, rest) ← readToken? line
  let input ← readInput? rest
  return (input, token.step)

/-- The arguments that a line writes: quoted texts with semicolons between them, in angle
brackets. -/
def readArguments? : Text → Option (List Text)
  | '<' :: rest =>
    if rest.getLast? = some '>' then (splitOn ';' rest.dropLast).mapM unquote? else none
  | _ => none

/-- What a logical line is. -/
def classify (line : Text) : LineKind :=
  match readCase? line with
  | some (input, expected) => .case input expected
  | none =>
    match readArguments? line with
    | some values => .arguments values
    | none => if line.head? = some '#' || isBlankText line then .remark else .unknown

/-! ### Whole files -/

/-- The entries of some logical lines, `started` telling whether any entry stands before them. -/
def entriesOf (started : Bool) : List LogicalLine → Except ScriptError (List Entry)
  | [] => .ok []
  | line :: rest =>
    match classify line.text with
    | .case input expected =>
      (fun entries ↦ .step (.input input) :: .step expected :: entries) <$> entriesOf true rest
    | .arguments values =>
      if started then .error (.misplacedArguments line.number)
      else (Entry.arguments values :: ·) <$> entriesOf true rest
    | .remark => entriesOf started rest
    | .unknown => .error (.malformed line.number line.text)

/-- The physical lines of a file, without the carriage returns that may end them. -/
def physicalLines (text : Text) : List Text :=
  text.lines.map trimReturns

/-- The script that a file holds, or the first thing that is wrong with it. -/
def parse (text : Text) : Except ScriptError Script := do
  let entries ← entriesOf false (gather 1 none (physicalLines text))
  ofEntries entries

end Dialogue.Script
