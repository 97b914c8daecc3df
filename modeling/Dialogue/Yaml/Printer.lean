import Dialogue.Yaml.Scalar
import Dialogue.Yaml.Token.Cursor

/-!
# Writing values

A value is written in block style. A text is written plainly where it would be read back as itself,
in single quotes where only its looks are in the way, as a literal block where it has several
lines, and in double quotes where it has characters that cannot be shown or blanks at the end of a
line.
-/

set_option autoImplicit false
set_option relaxedAutoImplicit false

namespace Dialogue.Yaml

/-! ### How a text can be written -/

/-- Whether a character is shown as it is. -/
def isShown (c : Char) : Bool :=
  c == '\n' || (' ' ≤ c && c ≤ '~')
    || ('\u00a0' ≤ c && c ≤ '\ufffd' && c != '\ufeff') || 0x10000 ≤ c.toNat

/-- Whether neighbours are, in this order, of two kinds anywhere in a text. -/
def hasNeighbours (first second : Char → Bool) : Text → Bool
  | a :: b :: rest => (first a && second b) || hasNeighbours first second (b :: rest)
  | _ => false

/-- Whether a text begins with a mark of the notation. -/
def startsWithMark (text : Text) : Bool :=
  match text with
  | [] => false
  | c :: rest =>
    "#,[]\x7b\x7d&*!|>'\"%@\x60".toList.contains c
      || ((c == '?' || c == ':' || c == '-') && endsWord rest.head?)
      || "---".toList.isPrefixOf text || "...".toList.isPrefixOf text

/-- Whether a text holds a mark of the notation behind its first character: a colon at the end of a
word, or a number sign at the start of one. -/
def holdsMark (text : Text) : Bool :=
  colonEnds (text.drop 1)
    || hasNeighbours (fun c ↦ isSpacing c || isBreak c) (· == '#') text
where
  /-- Whether a colon ends a word. -/
  colonEnds : Text → Bool
    | [] => false
    | c :: rest => (c == ':' && endsWord rest.head?) || colonEnds rest

/-- The ways to write a text. -/
inductive Style where
  | plain
  | single
  | double
  | literal
  deriving Repr, DecidableEq, Inhabited

/-- The way in which a text is written. -/
def styleOf (text : Text) : Style :=
  let space (c : Char) : Bool := c == ' '
  let edge (c : Char) : Bool := c == ' ' || isBreak c
  let hidden := !text.all isShown || hasNeighbours space isBreak text
  if text.contains '\n' then
    if hidden || text.getLast?.any space then .double else .literal
  else if hidden || hasNeighbours isBreak space text then .double
  else if isAmbiguous text || text.head?.any edge || text.getLast?.any edge || text.any isBreak
      || startsWithMark text || holdsMark text then .single
  else .plain

/-! ### Writing a text -/

/-- The indentation of a line. -/
def margin (indent : Nat) : Text :=
  List.replicate indent ' '

/-- A text between single quotes, which are doubled within it. A line is indented. -/
def singleQuoted (indent : Nat) (fresh : Bool) : Text → Text
  | [] => (if fresh then margin indent else []) ++ ['\'']
  | c :: rest =>
    if isBreak c then c :: singleQuoted indent true rest
    else
      (if fresh then margin indent else []) ++ (if c == '\'' then ['\'', '\''] else [c])
        ++ singleQuoted indent false rest

/-- How a character is written between double quotes. -/
def escapedChar (c : Char) : Text :=
  match c with
  | '\x00' => ['\\', '0']
  | '\x07' => ['\\', 'a']
  | '\x08' => ['\\', 'b']
  | '\t' => ['\\', 't']
  | '\n' => ['\\', 'n']
  | '\x0b' => ['\\', 'v']
  | '\x0c' => ['\\', 'f']
  | '\r' => ['\\', 'r']
  | '\x1b' => ['\\', 'e']
  | '"' => ['\\', '"']
  | '\\' => ['\\', '\\']
  | '\u0085' => ['\\', 'N']
  | '\u2028' => ['\\', 'L']
  | '\u2029' => ['\\', 'P']
  | _ =>
    if isShown c then [c]
    else if c.toNat ≤ 0xff then '\\' :: 'x' :: Text.hexadecimal 2 c.toNat
    else if c.toNat ≤ 0xffff then '\\' :: 'u' :: Text.hexadecimal 4 c.toNat
    else '\\' :: 'U' :: Text.hexadecimal 8 c.toNat

/-- A text between double quotes. -/
def doubleQuoted (text : Text) : Text :=
  '"' :: text.flatMap escapedChar ++ ['"']

/-- What stands behind the mark of a literal block: how far it is indented, if that cannot be seen
from its first line, and what becomes of the line breaks at its end. -/
def literalHints (text : Text) : Text :=
  let indent : Text := if text.head?.any fun c ↦ c == ' ' || isBreak c then ['2'] else []
  let chomping : Text := match text.reverse with
    | [] => ['-']
    | last :: before =>
      if !isBreak last then ['-'] else if before.head?.all isBreak then ['+'] else []
  indent ++ chomping

/-- The lines of a literal block, each of which is indented unless it is empty. -/
def literalLines (indent : Nat) (fresh : Bool) : Text → Text
  | [] => if fresh then [] else ['\n']
  | c :: rest =>
    if isBreak c then c :: literalLines indent true rest
    else (if fresh then margin indent else []) ++ c :: literalLines indent false rest

/-- A text up to the end of its last line, the further lines of which are indented. -/
def writtenText (indent : Nat) (text : Text) : Text :=
  match styleOf text with
  | .plain => text ++ ['\n']
  | .single => '\'' :: singleQuoted indent false text ++ ['\n']
  | .double => doubleQuoted text ++ ['\n']
  | .literal => '|' :: literalHints text ++ '\n' :: literalLines indent true text

/-! ### Writing a value -/

/-- How far an entry is indented in a collection. -/
def step : Nat := 2

mutual

/-- A value behind the mark of an item, up to the end of its last line. Collections begin on the
line of the mark. -/
def writtenItem (indent : Nat) : Value → Text
  | .null => " null\n".toList
  | .boolean value => (if value then " true\n" else " false\n").toList
  | .integer value => ' ' :: (toString value).toList ++ ['\n']
  | .fraction shown => ' ' :: shown ++ ['\n']
  | .text content => ' ' :: writtenText (indent + step) content
  | .sequence items => if items.isEmpty then " []\n".toList
    else ' ' :: (writtenItems (indent + step) items).drop (indent + step)
  | .mapping entries => if entries.isEmpty then " \x7b\x7d\n".toList
    else ' ' :: (writtenEntries (indent + step) entries).drop (indent + step)
  | .tagged tag value => ' ' :: '!' :: tag ++ writtenItem indent value

/-- A value behind a key, up to the end of its last line. Collections begin on the next line, and
the items of a sequence are as deep as the key. -/
def writtenValue (indent : Nat) : Value → Text
  | .sequence items => if items.isEmpty then " []\n".toList
    else '\n' :: writtenItems indent items
  | .mapping entries => if entries.isEmpty then " \x7b\x7d\n".toList
    else '\n' :: writtenEntries (indent + step) entries
  | .tagged tag value => ' ' :: '!' :: tag ++ writtenValue indent value
  | .null => " null\n".toList
  | .boolean value => (if value then " true\n" else " false\n").toList
  | .integer value => ' ' :: (toString value).toList ++ ['\n']
  | .fraction shown => ' ' :: shown ++ ['\n']
  | .text content => ' ' :: writtenText (indent + step) content

/-- The items of a sequence, one a line. -/
def writtenItems (indent : Nat) : List Value → Text
  | [] => []
  | item :: rest => margin indent ++ '-' :: writtenItem indent item ++ writtenItems indent rest

/-- The entries of a mapping, one a line. -/
def writtenEntries (indent : Nat) : List (Value × Value) → Text
  | [] => []
  | (key, value) :: rest =>
    let name := (writtenItem indent key).drop 1
    margin indent ++ name.dropLast ++ ':' :: writtenValue indent value
      ++ writtenEntries indent rest

end

/-- A value as a document. -/
def Value.render (value : Value) : Text :=
  match value with
  | .mapping (entry :: entries) => writtenEntries 0 (entry :: entries)
  | .sequence (item :: items) => writtenItems 0 (item :: items)
  | _ => (writtenItem 0 value).drop 1

end Dialogue.Yaml
