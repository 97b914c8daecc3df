import Dialogue.Text.Bytes
import Dialogue.Tool.Work

/-!
# The inputs of tools

Most tools read the files that their operands name, one after the other, or the standard input if
there are none; a hyphen stands for the standard input, too. A file that cannot be read is
complained about, and the others are read all the same. A text falls into lines, the last of which
may lack its line break (`Line`).
-/

set_option autoImplicit false
set_option relaxedAutoImplicit false

namespace Dialogue.Tool

open Dialogue.Machine

/-! ### Names in complaints -/

/-- Whether a character has a meaning for a shell, so that a name with it is shown in quotes. -/
def isShellChar (c : Char) : Bool :=
  " !\"$&'()*;<=>?[\\^\x60|".toList.contains c

/-- Whether a character cannot be shown as it is. -/
def isHidden (c : Char) : Bool :=
  c.toNat < 32 || c.toNat = 127 || Text.isStray c

/-- A character as it is shown between quotation marks. -/
def shownChar (c : Char) : Text :=
  match c with
  | '\\' => "\\\\".toList
  | '\n' => "\\n".toList
  | '\t' => "\\t".toList
  | '\r' => "\\r".toList
  | _ =>
    if c.toNat = 7 then "\\a".toList
    else if c.toNat = 8 then "\\b".toList
    else if c.toNat = 11 then "\\v".toList
    else if c.toNat = 12 then "\\f".toList
    else if isHidden c then
      let n := c.toNat % 256
      ['\\', Char.ofNat (48 + n / 64), Char.ofNat (48 + n / 8 % 8), Char.ofNat (48 + n % 8)]
    else [c]

/-- A name in quotes, so that a shell reads it as one word. -/
def quotedName (name : Text) : Text :=
  let text := Text.gather name
  let isPlain := !text.any fun c ↦ isHidden c || "\"$\\\x60!".toList.contains c
  if text.contains '\'' && isPlain then '"' :: name ++ ['"']
  else
    let (_, pieces) := text.foldl (fun (escaped, pieces) c ↦
      if isHidden c then
        (true, (if escaped then shownChar c else "'$'".toList ++ shownChar c) :: pieces)
      else
        let shown := if c == '\'' then "'\\''".toList else [c]
        (false, (if escaped then "''".toList ++ shown else shown) :: pieces))
      (false, ([] : List Text))
    Text.scatter ('\'' :: pieces.reverse.flatten ++ ['\''])

/-- A name as it is shown in a complaint, in quotes only if it needs them. -/
def shownName (name : Text) : Text :=
  if name.isEmpty || name.any isShellChar || (Text.gather name).any isHidden
      || name.head? == some '#' || name.head? == some '~'
      || name == "\x7b".toList || name == "\x7d".toList then quotedName name
  else name

/-- A word that is no name of a file, as it is shown in a complaint. -/
def quotedWord (word : Text) : Text :=
  Text.scatter ('‘' :: (Text.gather word).flatMap shownChar ++ ['’'])

/-! ### Opening -/

namespace Work

/-- Opens an input: the number of its stream, or what went wrong. -/
def openInput (name : Text) : Work (Except FileError Nat) :=
  if name == ['-'] then pure (.ok 0) else openFile name .read

/-- Closes an input. -/
def closeInput (name : Text) (stream : Nat) : Work Unit :=
  if name == ['-'] then pure () else close stream

/-- Reads an input to its end. -/
def readInput (name : Text) : Work (Except FileError Text) := do
  match ← openInput name with
  | .error error => return .error error
  | .ok stream =>
    let (text, error) ← readAll stream
    closeInput name stream
    return match error with
      | some error => .error error
      | none => .ok text

end Work

/-- The inputs that operands name. -/
def inputsOf (operands : List Text) : List Text :=
  if operands.isEmpty then [['-']] else operands

namespace Work

/-- Reads all inputs that operands name: their texts, and whether all could be read. -/
def readInputs (operands : List Text) : Work (List Text × Bool) :=
  fold (fun (texts, all) name ↦ do
    match ← readInput name with
    | .ok text => return (texts ++ [text], all)
    | .error error =>
      complain (shownName name ++ ": ".toList ++ error.wording)
      return (texts, false)) ([], true) (inputsOf operands)

end Work

/-! ### Lines -/

/-- A line of a text. -/
structure Line where
  text : Text
  /-- Whether a line break ends it. -/
  isEnded : Bool
  deriving Repr, DecidableEq, Inhabited

namespace Line

/-- A line as it stands in a text. -/
def whole (line : Line) : Text :=
  if line.isEnded then line.text ++ ['\n'] else line.text

/-- The lines of a text behind those that have been found, the last one first. The fuel is the
length of the text and one more. -/
def cutUpTo (separator : Char) (found : List Line) (text : Text) : Nat → List Line
  | 0 => found.reverse
  | fuel + 1 =>
    let line := text.takeWhile (· != separator)
    match text.drop line.length with
    | [] => (if line.isEmpty then found else ⟨line, false⟩ :: found).reverse
    | _ :: rest => cutUpTo separator (⟨line, true⟩ :: found) rest fuel

/-- The lines of a text, which end with some character. -/
def cut (separator : Char) (text : Text) : List Line :=
  cutUpTo separator [] text (text.length + 1)

end Line

/-- The texts of the lines of a text. -/
def lineTexts (text : Text) : List Text :=
  (Line.cut '\n' text).map Line.text

/-- Lines with a line break behind each one. -/
def unlines (lines : List Text) : Text :=
  lines.flatMap fun line ↦ line ++ ['\n']

namespace Work

/-- Does something with each line of a stream, as long as that yields a state to go on with. What is
not read then is given back. It yields the last state and what went wrong. -/
def eachLine {σ : Type} (stream : Nat) (step : σ → Line → Work (σ ⊕ σ)) (start : σ) :
    Work (σ × Option FileError) :=
  loop (fun (state, unread) ↦ do
    let line := unread.takeWhile (· != '\n')
    match unread.drop line.length with
    | _ :: rest =>
      match ← step state ⟨line, true⟩ with
      | .inl state => return .inl (state, rest)
      | .inr state =>
        giveBack stream rest.length
        return .inr (state, none)
    | [] =>
      match ← read stream with
      | .text text => return .inl (state, unread ++ text)
      | .refused error => return .inr (state, some error)
      | .finish =>
        if unread.isEmpty then return .inr (state, none)
        else
          match ← step state ⟨unread, false⟩ with
          | .inl state | .inr state => return .inr (state, none)) (start, ([] : Text))

end Work

end Dialogue.Tool
