import Dialogue.Text.Utf8

/-!
# Positions in a document

Reading moves a cursor over the characters of a document. The cursor knows its line and its column,
which give the nesting of what is written in block style. Between two words of a scalar lies a gap:
blanks on a line, or line breaks; `Gap.folded` is what the gap stands for, where a single line break
is a space and of several ones the first is left out.
-/

set_option autoImplicit false
set_option relaxedAutoImplicit false

namespace Dialogue.Yaml

/-! ### Characters -/

/-- Whether a character is a blank within a line. -/
def isSpacing (c : Char) : Bool :=
  c == ' ' || c == '\t'

/-- Whether a character breaks a line. -/
def isBreak (c : Char) : Bool :=
  c == '\n' || c == '\r' || c == '\u0085' || c == '\u2028' || c == '\u2029'

/-- Whether a character, if there is one, ends a word. -/
def endsWord (c : Option Char) : Bool :=
  c.all fun c ↦ isSpacing c || isBreak c

/-- Whether a character may stand in a name. -/
def isNameChar (c : Char) : Bool :=
  c.isAlphanum || c == '_' || c == '-'

/-- Whether a character may stand in a document at all. -/
def isAllowed (c : Char) : Bool :=
  c == '\t' || c == '\n' || c == '\r' || (' ' ≤ c && c ≤ '~') || c == '\u0085'
    || ('\u00a0' ≤ c && c ≤ '\ufffd') || 0x10000 ≤ c.toNat

/-! ### Cursors -/

/-- A position in a document, and what stands behind it. -/
structure Cursor where
  rest : Text
  line : Nat
  column : Nat
  /-- How many bytes the characters before the position take up. -/
  index : Nat
  deriving Repr, DecidableEq, Inhabited

namespace Cursor

/-- The character a distance ahead. -/
def ahead (cursor : Cursor) (distance : Nat) : Option Char :=
  cursor.rest[distance]?

/-- Whether the next character is the given one. -/
def isAt (cursor : Cursor) (c : Char) : Bool :=
  cursor.rest.head? == some c

/-- Whether the next character satisfies a test. -/
def sees (cursor : Cursor) (test : Char → Bool) : Bool :=
  cursor.rest.head?.any test

/-- Whether the next character breaks the line or there is none. -/
def atLineEnd (cursor : Cursor) : Bool :=
  cursor.rest.head?.all isBreak

/-- The position behind a number of characters of a line. -/
def skip (cursor : Cursor) (count : Nat) : Cursor :=
  { cursor with
    rest := cursor.rest.drop count
    column := cursor.column + count
    index := cursor.index + Text.Utf8.size (cursor.rest.take count) }

/-- The position behind all next characters that satisfy a test, none of which breaks the line, and
those characters. -/
def takeWhile (cursor : Cursor) (test : Char → Bool) : Text × Cursor :=
  let taken := cursor.rest.takeWhile test
  (taken, cursor.skip taken.length)

/-- The position behind all next characters that satisfy a test. -/
def skipWhile (cursor : Cursor) (test : Char → Bool) : Cursor :=
  (cursor.takeWhile test).2

/-- The position behind a mark of the byte order at the start of a line. It takes up a column. -/
def skipByteOrderMark (cursor : Cursor) : Cursor :=
  if cursor.column == 0 && cursor.isAt '\ufeff' then cursor.skip 1 else cursor

/-- The position at the end of the line. -/
def skipLine (cursor : Cursor) : Cursor :=
  cursor.skipWhile fun c ↦ !isBreak c

/-- The start of the next line, after a line break of some characters. -/
def newLine (cursor : Cursor) (count : Nat) : Cursor where
  rest := cursor.rest.drop count
  line := cursor.line + 1
  column := 0
  index := cursor.index + Text.Utf8.size (cursor.rest.take count)

/-- The line break at a position, as it is kept in a scalar, and the position behind it. -/
def lineBreak? (cursor : Cursor) : Option (Char × Cursor) :=
  match cursor.rest with
  | '\r' :: '\n' :: _ => some ('\n', cursor.newLine 2)
  | c :: _ =>
    if c == '\u2028' || c == '\u2029' then some (c, cursor.newLine 1)
    else if isBreak c then some ('\n', cursor.newLine 1)
    else none
  | [] => none

/-- Whether a mark of three characters that bounds documents stands at a position. -/
def atBoundary (cursor : Cursor) (mark : Text) : Bool :=
  cursor.column == 0 && mark.isPrefixOf cursor.rest && endsWord (cursor.ahead 3)

/-- Whether a document starts or ends at a position. -/
def atAnyBoundary (cursor : Cursor) : Bool :=
  cursor.atBoundary "---".toList || cursor.atBoundary "...".toList

end Cursor

/-! ### Gaps -/

/-- What lies between two words. -/
structure Gap where
  /-- The blanks before the first line break. -/
  blanks : Text
  /-- The line breaks. -/
  breaks : Text
  /-- Whether the first line break was escaped, so that it stands for nothing. -/
  escaped : Bool
  /-- Whether a tab was found where an indentation is due. -/
  tabbed : Bool
  deriving Repr, DecidableEq, Inhabited

namespace Gap

/-- Nothing between two words. -/
def none : Gap := ⟨[], [], false, false⟩

/-- Whether the next word is on another line. -/
def isBroken (gap : Gap) : Bool :=
  gap.escaped || !gap.breaks.isEmpty

/-- What a gap stands for. -/
def folded (gap : Gap) : Text :=
  if gap.escaped then gap.breaks
  else
    match gap.breaks with
    | [] => gap.blanks
    | ['\n'] => [' ']
    | '\n' :: others => others
    | others => others

/-- Reads on in a gap. Behind a line break a tab is out of place before the given column. -/
def readOn (indent : Int) (gap : Gap) (cursor : Cursor) : Nat → Gap × Cursor
  | 0 => (gap, cursor)
  | fuel + 1 =>
    match cursor.lineBreak? with
    | some (c, next) => readOn indent { gap with breaks := gap.breaks ++ [c] } next fuel
    | .none =>
      if cursor.sees isSpacing then
        let gap :=
          if !gap.isBroken then { gap with blanks := gap.blanks ++ cursor.rest.take 1 }
          else if cursor.isAt '\t' && (cursor.column : Int) < indent then
            { gap with tabbed := true }
          else gap
        readOn indent gap (cursor.skip 1) fuel
      else (gap, cursor)

/-- Reads a gap, the beginning of which is known. -/
def read (indent : Int) (start : Gap) (cursor : Cursor) : Gap × Cursor :=
  readOn indent start cursor (cursor.rest.length + 1)

end Gap

end Dialogue.Yaml
