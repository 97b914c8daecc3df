import Dialogue.Yaml.Token.Cursor
import Dialogue.Text.Basic

/-!
# Reading scalars

A scalar is written in quotes, plainly, or as a block of lines. Quoted and plain scalars are words
with gaps between them, and the gaps are folded. A block keeps its line breaks or folds them, and
its header says what becomes of those at its end. Reading yields nothing where the writing is
wrong.
-/

set_option autoImplicit false
set_option relaxedAutoImplicit false

namespace Dialogue.Yaml

/-! ### Escapes -/

/-- The character that a letter stands for behind a backslash. -/
def escaped? : Char → Option Char
  | '0' => some '\x00'
  | 'a' => some '\x07'
  | 'b' => some '\x08'
  | 't' | '\t' => some '\t'
  | 'n' => some '\n'
  | 'v' => some '\x0b'
  | 'f' => some '\x0c'
  | 'r' => some '\r'
  | 'e' => some '\x1b'
  | ' ' => some ' '
  | '"' => some '"'
  | '/' => some '/'
  | '\\' => some '\\'
  | 'N' => some '\u0085'
  | '_' => some '\u00a0'
  | 'L' => some '\u2028'
  | 'P' => some '\u2029'
  | _ => none

/-- How many digits of a character's number follow a letter behind a backslash. -/
def escapedWidth? : Char → Option Nat
  | 'x' => some 2
  | 'u' => some 4
  | 'U' => some 8
  | _ => none

/-- The character that a number stands for, if it stands for one. -/
def charOf? (n : Nat) : Option Char :=
  if h : n.isValidChar then some (Char.ofNatAux n h) else none

/-- Reads what follows a backslash. -/
def readEscape? (cursor : Cursor) : Option (Char × Cursor) := do
  let letter ← cursor.ahead 0
  match escapedWidth? letter with
  | some width =>
    let digits := (cursor.rest.drop 1).take width
    let n ← if digits.length = width then Text.toNat? 16 digits else none
    return (← charOf? n, cursor.skip (width + 1))
  | none => return (← escaped? letter, cursor.skip 1)

/-! ### Quoted scalars -/

/-- Reads a word between single quotes. -/
def singleWord (cursor : Cursor) : Nat → Text × Cursor
  | 0 => ([], cursor)
  | fuel + 1 =>
    match cursor.rest with
    | '\'' :: '\'' :: _ =>
      let (word, next) := singleWord (cursor.skip 2) fuel
      ('\'' :: word, next)
    | c :: _ =>
      if c == '\'' || isSpacing c || isBreak c then ([], cursor)
      else
        let (word, next) := singleWord (cursor.skip 1) fuel
        (c :: word, next)
    | [] => ([], cursor)

/-- Reads a word between double quotes, and whether an escaped line break ended it. -/
def doubleWord? (cursor : Cursor) : Nat → Option (Text × Bool × Cursor)
  | 0 => none
  | fuel + 1 =>
    match cursor.rest with
    | '\\' :: _ =>
      match (cursor.skip 1).lineBreak? with
      | some (_, next) => some ([], true, next)
      | none => do
        let (c, next) ← readEscape? (cursor.skip 1)
        let (word, broken, last) ← doubleWord? next fuel
        return (c :: word, broken, last)
    | c :: _ =>
      if c == '"' || isSpacing c || isBreak c then some ([], false, cursor)
      else do
        let (word, broken, last) ← doubleWord? (cursor.skip 1) fuel
        return (c :: word, broken, last)
    | [] => some ([], false, cursor)

/-- Reads a word between quotes of either kind. -/
def quotedWord? (single : Bool) (cursor : Cursor) : Option (Text × Bool × Cursor) :=
  if single then
    let (word, next) := singleWord cursor (cursor.rest.length + 1)
    some (word, false, next)
  else doubleWord? cursor (cursor.rest.length + 1)

/-- Reads words and gaps up to the closing quote. -/
def quotedWords? (single : Bool) (content : Text) (cursor : Cursor) :
    Nat → Option (Text × Cursor)
  | 0 => none
  | fuel + 1 => do
    if cursor.atAnyBoundary || cursor.rest.isEmpty then none
    else
      let (word, broken, next) ← quotedWord? single cursor
      if next.isAt (if single then '\'' else '"') then some (content ++ word, next.skip 1)
      else
        let (gap, last) := Gap.read 0 { Gap.none with escaped := broken } next
        quotedWords? single (content ++ word ++ gap.folded) last fuel

/-- Reads a scalar in quotes, from the opening one. -/
def readQuoted? (single : Bool) (cursor : Cursor) : Option (Text × Cursor) :=
  quotedWords? single [] (cursor.skip 1) (cursor.rest.length + 1)

/-! ### Plain scalars -/

/-- The marks of collections in flow style. -/
def isFlowMark (c : Char) : Bool :=
  c == ',' || c == '[' || c == ']' || c == '{' || c == '}'

/-- Reads a word of a plain scalar. In flow style a colon must not stand before a mark. -/
def plainWord? (inFlow : Bool) (cursor : Cursor) : Nat → Option (Text × Cursor)
  | 0 => none
  | fuel + 1 =>
    match cursor.rest with
    | [] => some ([], cursor)
    | c :: rest =>
      let next := rest.head?
      if isSpacing c || isBreak c then some ([], cursor)
      else if inFlow && c == ':' && next.any (fun d ↦ isFlowMark d || d == '?') then none
      else if (c == ':' && endsWord next) || (inFlow && isFlowMark c) then some ([], cursor)
      else do
        let (word, last) ← plainWord? inFlow (cursor.skip 1) fuel
        return (c :: word, last)

/-- Reads words and gaps of a plain scalar, behind a gap. The scalar ends at a mark, at a remark,
and in block style where the indentation ends. Yields also whether the last gap holds a line break.
-/
def plainWords? (inFlow : Bool) (indent : Int) (content : Text) (gap : Gap) (cursor : Cursor) :
    Nat → Option (Text × Bool × Cursor)
  | 0 => none
  | fuel + 1 => do
    if cursor.atAnyBoundary || cursor.isAt '#' then some (content, gap.isBroken, cursor)
    else
      let (word, next) ← plainWord? inFlow cursor (cursor.rest.length + 1)
      let (content, gap) :=
        if word.isEmpty then (content, gap) else (content ++ gap.folded ++ word, Gap.none)
      if !next.sees (fun c ↦ isSpacing c || isBreak c) then some (content, gap.isBroken, next)
      else
        let (gap, last) := Gap.read indent gap next
        if gap.tabbed then none
        else if !inFlow && (last.column : Int) < indent then some (content, gap.isBroken, last)
        else plainWords? inFlow indent content gap last fuel

/-- Reads a plain scalar. -/
def readPlain? (inFlow : Bool) (indent : Int) (cursor : Cursor) : Option (Text × Bool × Cursor) :=
  plainWords? inFlow indent [] Gap.none cursor (cursor.rest.length + 1)

/-! ### Blocks -/

/-- What becomes of the line breaks at the end of a block. -/
inductive Chomping where
  /-- All are dropped. -/
  | strip
  /-- The first one is kept. -/
  | clip
  /-- All are kept. -/
  | keep
  deriving Repr, DecidableEq, Inhabited

/-- The chomping that a mark stands for. -/
def chompingOf? : Option Char → Option Chomping
  | some '+' => some .keep
  | some '-' => some .strip
  | _ => none

/-- Reads a digit that says how far a block is indented, if there is one. It must not be zero. -/
def blockIndent? (cursor : Cursor) : Option (Option Nat × Cursor) :=
  match cursor.ahead 0 with
  | some c =>
    if c == '0' then none
    else if c.isDigit then some (some (c.toNat - '0'.toNat), cursor.skip 1)
    else some (none, cursor)
  | none => some (none, cursor)

/-- Reads the header of a block: a chomping and an indentation, in either order, and a remark. -/
def blockHeader? (cursor : Cursor) : Option (Chomping × Option Nat × Cursor) := do
  let (chomping, indent, next) ←
    match chompingOf? (cursor.ahead 0) with
    | some chomping => do
      let (indent, next) ← blockIndent? (cursor.skip 1)
      pure (chomping, indent, next)
    | none => do
      let (indent, next) ← blockIndent? cursor
      match indent, chompingOf? (next.ahead 0) with
      | some _, some chomping => pure (chomping, indent, next.skip 1)
      | _, _ => pure (Chomping.clip, indent, next)
  let last := next.skipWhile isSpacing
  let last := if last.isAt '#' then last.skipLine else last
  match last.rest, last.lineBreak? with
  | [], _ => return (chomping, indent, last)
  | _, some (_, start) => return (chomping, indent, start)
  | _, none => none

/-- Reads the empty lines before a line of a block, and the spaces before that line up to its
indentation; without a known one, all spaces. Yields the line breaks, and the widest run of spaces.
A tab in the indentation is wrong. -/
def blockBreaks? (indent : Option Nat) (widest : Nat) (breaks : Text) (cursor : Cursor) :
    Nat → Option (Text × Nat × Cursor)
  | 0 => none
  | fuel + 1 =>
    let spaces := (cursor.rest.takeWhile (· == ' ')).length
    let next := cursor.skip (match indent with
      | some indent => min spaces (indent - cursor.column)
      | none => spaces)
    let widest := max widest next.column
    if next.isAt '\t' && indent.all (fun indent ↦ next.column < indent) then none
    else
      match next.lineBreak? with
      | some (c, last) => blockBreaks? indent widest (breaks ++ [c]) last fuel
      | none => some (breaks, widest, next)

/-- What is left over of the lines read so far: the line break of the last one, and those of the
empty lines behind it. -/
structure BlockEnd where
  last : Text
  others : Text
  /-- Whether the last line starts with a blank. -/
  blank : Bool
  deriving Repr, DecidableEq, Inhabited

/-- What stands between two lines of a block. In a folded block a single line break between lines
that start with no blank is a space. -/
def BlockEnd.joined (ending : BlockEnd) (literal blank : Bool) : Text :=
  if !literal && ending.last == ['\n'] && !ending.blank && !blank then
    if ending.others.isEmpty then [' '] else ending.others
  else ending.last ++ ending.others

/-- Reads the lines of a block that stand at its indentation. -/
def blockLines? (literal : Bool) (indent : Nat) (content : Text) (ending : BlockEnd)
    (cursor : Cursor) : Nat → Option (Text × BlockEnd × Cursor)
  | 0 => none
  | fuel + 1 => do
    if cursor.column ≠ indent || cursor.rest.isEmpty then return (content, ending, cursor)
    else
      let blank := cursor.sees isSpacing
      let (line, next) := cursor.takeWhile fun c ↦ !isBreak c
      let content := content ++ ending.joined literal blank ++ line
      let (last, start) := match next.lineBreak? with
        | some (c, start) => ([c], start)
        | none => ([], next)
      let (others, _, start) ← blockBreaks? (some indent) 0 [] start (start.rest.length + 1)
      blockLines? literal indent content ⟨last, others, blank⟩ start fuel

/-- Reads a block from its mark, within something of an indentation. -/
def readBlock? (literal : Bool) (outer : Int) (cursor : Cursor) : Option (Text × Cursor) := do
  let fuel := cursor.rest.length + 1
  let (chomping, increment, start) ← blockHeader? (cursor.skip 1)
  let given := increment.map fun n ↦ (max outer 0).toNat + n
  let (breaks, widest, first) ← blockBreaks? given 0 [] start fuel
  let indent := given.getD (max (max widest (outer + 1).toNat) 1)
  let (content, ending, last) ← blockLines? literal indent [] ⟨[], breaks, false⟩ first fuel
  let kept := match chomping with
    | .strip => []
    | .clip => ending.last
    | .keep => ending.last ++ ending.others
  return (content ++ kept, last)

end Dialogue.Yaml
