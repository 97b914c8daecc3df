import Dialogue.Text.Utf8
import Dialogue.Yaml.Token.Basic
import Dialogue.Yaml.Token.Scalar

/-!
# The tokens of a document

The tokens of a document are read one after the other. What may turn out to be the key of a mapping
is remembered, one candidate for each level of nesting in flow style; when a colon follows on the
same line, the marks of the mapping and of its key are woven in before it. Indentation opens block
collections and closes them. Where the next token cannot be read, the tokens from the first
candidate on are lost, since nobody could say yet what they are.
-/

set_option autoImplicit false
set_option relaxedAutoImplicit false

namespace Dialogue.Yaml

/-! ### Names, tags and directives -/

/-- Reads the name of an anchor or a reference, from its mark. -/
def readName? (cursor : Cursor) : Option (Text × Cursor) :=
  let (name, next) := (cursor.skip 1).takeWhile isNameChar
  let ended := (next.ahead 0).all fun c ↦
    isSpacing c || isBreak c || "?:,]\x7d%@\x60".toList.contains c
  if name.isEmpty || !ended then none else some (name, next)

/-- Whether a character may stand in a tag. -/
def isTagChar (verbatim : Bool) (c : Char) : Bool :=
  isNameChar c || ";/?:@&=+$.!~*'()%".toList.contains c
    || (verbatim && ",[]".toList.contains c)

/-- How many bytes a character takes up whose first byte is given. Not every byte is a first one. -/
def widthOf? (byte : Nat) : Option Nat :=
  if byte < 0x80 then some 1
  else if byte < 0xc0 then none
  else if byte < 0xe0 then some 2
  else if byte < 0xf0 then some 3
  else if byte < 0xf8 then some 4
  else none

/-- The bytes that a run of tag characters stands for, each as the character with its number: two
digits behind a percent sign are a byte. So many of the next bytes go on with a character, and must
be of the kind that does. What the bytes make up is not looked at. -/
def tagBytes? (missing : Nat) : Text → Option Text
  | [] => if missing = 0 then some [] else none
  | '%' :: a :: b :: rest => do
    let byte ← Text.toNat? 16 [a, b]
    let missing ←
      if missing = 0 then (widthOf? byte).map (· - 1)
      else if 0x80 ≤ byte && byte < 0xc0 then some (missing - 1)
      else none
    return Char.ofNat byte :: (← tagBytes? missing rest)
  | c :: rest => do
    if c = '%' || missing ≠ 0 then none else return c :: (← tagBytes? 0 rest)

/-- Reads the part of a tag behind its handle, which is a text of bytes and ends at the first zero.
Yields also whether anything was written. -/
def readTagPart? (verbatim : Bool) (cursor : Cursor) : Option (Text × Bool × Cursor) := do
  let (part, next) := cursor.takeWhile (isTagChar verbatim)
  let bytes ← tagBytes? 0 part
  return (bytes.takeWhile (· != '\x00'), !part.isEmpty, next)

/-- Reads the handle of a tag, from its mark: a mark alone, or a name between two marks. -/
def readHandle (cursor : Cursor) : Text × Cursor :=
  let (name, next) := (cursor.skip 1).takeWhile isNameChar
  if next.isAt '!' then ('!' :: name ++ ['!'], next.skip 1) else ('!' :: name, next)

/-- Reads a tag, from its mark. Yields its handle, which is empty for a verbatim tag and for a mark
alone, and what stands behind the handle. -/
def readTag? (inFlow : Bool) (cursor : Cursor) : Option (Token × Cursor) := do
  let (token, next) ←
    if cursor.ahead 1 = some '<' then do
      let (part, written, next) ← readTagPart? true (cursor.skip 2)
      if !written || !next.isAt '>' then none
      else pure (Token.tag [] part, next.skip 1)
    else
      match readHandle cursor with
      | (handle, next) =>
        if handle.length > 1 && handle.getLast? == some '!' then do
          let (part, written, last) ← readTagPart? false next
          if written then pure (Token.tag handle part, last) else none
        else do
          let (part, _, last) ← readTagPart? false next
          let part := handle.drop 1 ++ part
          pure (if part.isEmpty then Token.tag [] ['!'] else Token.tag ['!'] part, last)
  if endsWord (next.ahead 0) || (inFlow && next.isAt ',') then return (token, next) else none

/-- Reads a number of a version. -/
def readVersionPart? (cursor : Cursor) : Option (Nat × Cursor) := do
  let (digits, next) := cursor.takeWhile Char.isDigit
  if digits.length > 9 then none else return (← Text.toNat? 10 digits, next)

/-- Reads a directive, from its mark, up to the end of its line. -/
def readDirective? (cursor : Cursor) : Option (Token × Cursor) := do
  let (name, next) := (cursor.skip 1).takeWhile isNameChar
  let (name, next) ←
    if endsWord (next.ahead 0) then some (name, next.skipWhile isSpacing) else none
  let (token, next) ←
    if name = "YAML".toList then do
      let (major, next) ← readVersionPart? next
      if !next.isAt '.' then none
      else
        let (minor, next) ← readVersionPart? (next.skip 1)
        pure (Token.version major minor, next)
    else if name = "TAG".toList then do
      let (handle, next) ← if next.isAt '!' then some (readHandle next) else none
      let (part, written, last) ← readTagPart? true (next.skipWhile isSpacing)
      if handle.getLast? != some '!' || !next.sees isSpacing || !written
          || !endsWord (last.ahead 0) then none
      else pure (Token.tagHandle handle part, last)
    else none
  let next := next.skipWhile isSpacing
  let next := if next.isAt '#' then next.skipLine else next
  if !next.atLineEnd then none
  else return (token, (next.lineBreak?.map Prod.snd).getD next)

/-! ### The state of reading -/

/-- Something that may turn out to be a key. -/
structure Candidate where
  /-- How many tokens stand before it. -/
  place : Nat
  line : Nat
  column : Nat
  index : Nat
  /-- Whether nothing but a key may stand here. -/
  required : Bool
  deriving Repr, DecidableEq, Inhabited

/-- What is known while tokens are read. -/
structure Reading where
  cursor : Cursor
  /-- The tokens so far. -/
  tokens : List Token
  /-- The column of the innermost block collection, if there is one. -/
  indent : Int
  /-- The columns of the block collections around it, the innermost first. -/
  outer : List Int
  /-- Whether a key may stand here. -/
  keyAllowed : Bool
  /-- What may be a key on the innermost level of nesting in flow style. -/
  candidate : Option Candidate
  /-- What may be keys on the levels around it, the innermost first. -/
  candidates : List (Option Candidate)
  deriving Repr, Inhabited

namespace Reading

/-- The state before a document. -/
def start (text : Text) : Reading where
  cursor := ⟨text, 0, 0, 0⟩
  tokens := []
  indent := -1
  outer := []
  keyAllowed := true
  candidate := none
  candidates := []

/-- Whether reading is in flow style. -/
def inFlow (r : Reading) : Bool :=
  !r.candidates.isEmpty

/-- One more token at the end. -/
def push (r : Reading) (token : Token) : Reading :=
  { r with tokens := r.tokens ++ [token] }

/-- Tokens woven in at a place. -/
def weave (r : Reading) (place : Nat) (new : List Token) : Reading :=
  { r with tokens := r.tokens.take place ++ new ++ r.tokens.drop place }

/-- Goes on behind a number of characters. -/
def skip (r : Reading) (count : Nat) : Reading :=
  { r with cursor := r.cursor.skip count }

/-! ### Candidates -/

/-- Forgets a candidate. It must not be one that is required. -/
def dropCandidate? (r : Reading) : Option Reading :=
  if r.candidate.any Candidate.required then none else some { r with candidate := none }

/-- Remembers that what follows may be a key. -/
def noteCandidate? (r : Reading) : Option Reading :=
  if r.keyAllowed then do
    let required := !r.inFlow && r.indent == (r.cursor.column : Int)
    let r ← r.dropCandidate?
    let new : Candidate :=
      ⟨r.tokens.length, r.cursor.line, r.cursor.column, r.cursor.index, required⟩
    return { r with candidate := some new }
  else some r

/-- Whether a candidate is on an earlier line or too long for a key. -/
def isStale (r : Reading) (candidate : Candidate) : Bool :=
  candidate.line < r.cursor.line || candidate.index + 1024 < r.cursor.index

/-- Forgets the candidates that can be keys no more. -/
def dropStale? (r : Reading) : Option Reading :=
  if (r.candidate :: r.candidates).any fun c ↦ c.any fun c ↦ c.required && r.isStale c then none
  else
    let kept (c : Option Candidate) := c.filter fun c ↦ !r.isStale c
    some { r with candidate := kept r.candidate, candidates := r.candidates.map kept }

/-! ### Indentation -/

/-- Opens a block collection at a column that is deeper than the innermost one. -/
def indentTo (r : Reading) (column : Nat) (place : Nat) (token : Token) : Reading :=
  if !r.inFlow && r.indent < (column : Int) then
    { r.weave place [token] with indent := column, outer := r.indent :: r.outer }
  else r

/-- Closes the block collections whose column is behind the given one, of some columns. -/
def closeFrom (column : Int) (indent : Int) : List Int → Nat × Int × List Int
  | [] => (0, indent, [])
  | next :: outer =>
    if indent > column then
      let (closed, indent, outer) := closeFrom column next outer
      (closed + 1, indent, outer)
    else (0, indent, next :: outer)

/-- Closes the block collections whose column is behind the given one. -/
def dedentTo (r : Reading) (column : Int) : Reading :=
  if r.inFlow then r
  else
    let (closed, indent, outer) := closeFrom column r.indent r.outer
    { r with
      tokens := r.tokens ++ List.replicate closed .blockEnd
      indent := indent
      outer := outer }

/-! ### Single tokens -/

/-- Passes over blanks, remarks and line breaks. A key may follow a line break in block style. -/
def skipToToken (r : Reading) : Nat → Reading
  | 0 => r
  | fuel + 1 =>
    let tabs := r.inFlow || !r.keyAllowed
    let cursor := r.cursor.skipByteOrderMark.skipWhile fun c ↦ c == ' ' || (tabs && c == '\t')
    let cursor := if cursor.isAt '#' then cursor.skipLine else cursor
    match cursor.lineBreak? with
    | some (_, next) =>
      skipToToken { r with cursor := next, keyAllowed := r.keyAllowed || !r.inFlow } fuel
    | none => { r with cursor := cursor }

/-- Reads what bounds documents or gives directives; all block collections end before it. -/
def readOutside? (r : Reading) (token : Token) (next : Cursor) : Option Reading := do
  let r ← (r.dedentTo (-1)).dropCandidate?
  return { r with keyAllowed := false, cursor := next }.push token

/-- Reads the start of a collection in flow style. -/
def openFlow? (r : Reading) (token : Token) : Option Reading := do
  let r ← r.noteCandidate?
  return ({ r with
    candidate := none
    candidates := r.candidate :: r.candidates
    keyAllowed := true }.skip 1).push token

/-- Reads the end of a collection in flow style. -/
def closeFlow? (r : Reading) (token : Token) : Option Reading := do
  let r ← r.dropCandidate?
  let r := match r.candidates with
    | [] => r
    | candidate :: others => { r with candidate := candidate, candidates := others }
  return ({ r with keyAllowed := false }.skip 1).push token

/-- Reads the mark between entries in flow style. -/
def readFlowEntry? (r : Reading) : Option Reading := do
  let r ← r.dropCandidate?
  return ({ r with keyAllowed := true }.skip 1).push .flowEntry

/-- Reads the mark before an entry of a block sequence. -/
def readBlockEntry? (r : Reading) : Option Reading := do
  if !r.inFlow && !r.keyAllowed then none
  else
    let r ← (r.indentTo r.cursor.column r.tokens.length .blockSequence).dropCandidate?
    return ({ r with keyAllowed := true }.skip 1).push .blockEntry

/-- Reads the mark before a key. -/
def readKey? (r : Reading) : Option Reading := do
  if !r.inFlow && !r.keyAllowed then none
  else
    let r ← (r.indentTo r.cursor.column r.tokens.length .blockMapping).dropCandidate?
    return ({ r with keyAllowed := !r.inFlow }.skip 1).push .key

/-- Reads the mark between a key and its value. A candidate turns out to be the key. -/
def readValue? (r : Reading) : Option Reading :=
  match r.candidate with
  | some candidate =>
    let r := r.weave candidate.place [.key]
    let r := r.indentTo candidate.column candidate.place .blockMapping
    some (({ r with candidate := none, keyAllowed := false }.skip 1).push .value)
  | none =>
    if !r.inFlow && !r.keyAllowed then none
    else
      let r := r.indentTo r.cursor.column r.tokens.length .blockMapping
      some (({ r with keyAllowed := !r.inFlow }.skip 1).push .value)

/-- Reads something that may be a key, or what stands before it. -/
def readPart? (r : Reading) (part : Option (Token × Cursor)) : Option Reading := do
  let r ← r.noteCandidate?
  let (token, next) ← part
  return { r with keyAllowed := false, cursor := next }.push token

/-- Reads a block scalar, behind which a key may stand. -/
def readBlockScalar? (r : Reading) (literal : Bool) : Option Reading := do
  let r ← r.dropCandidate?
  let (content, next) ← readBlock? literal r.indent r.cursor
  return { r with keyAllowed := true, cursor := next }.push (.scalar content false)

/-- Reads a plain scalar. A key may stand behind it if it ends with a line break. -/
def readPlainScalar? (r : Reading) : Option Reading := do
  let r ← r.noteCandidate?
  let (content, broken, next) ← readPlain? r.inFlow (r.indent + 1) r.cursor
  return { r with keyAllowed := broken, cursor := next }.push (.scalar content true)

/-- Whether a character starts no plain scalar, whatever follows it. -/
def isIndicator (c : Char) : Bool :=
  "-?:,[]\x7b\x7d#&*!|>'\"%@\x60".toList.contains c

/-- Whether a plain scalar starts at a position. -/
def startsPlain (r : Reading) (c : Char) (next : Option Char) : Bool :=
  !(isIndicator c || isSpacing c || isBreak c)
    || (c == '-' && !next.any isSpacing)
    || (!r.inFlow && (c == '?' || c == ':') && !endsWord next)

/-- Reads a token that starts with a character, behind all blanks. -/
def readAt? (r : Reading) (c : Char) : Option Reading :=
  let cursor := r.cursor
  let next := cursor.ahead 1
  if cursor.column == 0 && c == '%' then do
    let (token, last) ← readDirective? cursor
    r.readOutside? token last
  else if cursor.atBoundary "---".toList then r.readOutside? .documentStart (cursor.skip 3)
  else if cursor.atBoundary "...".toList then r.readOutside? .documentEnd (cursor.skip 3)
  else if c == '[' then r.openFlow? .flowSequence
  else if c == '\x7b' then r.openFlow? .flowMapping
  else if c == ']' then r.closeFlow? .flowSequenceEnd
  else if c == '\x7d' then r.closeFlow? .flowMappingEnd
  else if c == ',' then r.readFlowEntry?
  else if c == '-' && endsWord next then r.readBlockEntry?
  else if c == '?' && (r.inFlow || endsWord next) then r.readKey?
  else if c == ':' && (r.inFlow || endsWord next) then r.readValue?
  else if c == '*' then
    r.readPart? ((readName? cursor).map fun (name, last) ↦ (.reference name, last))
  else if c == '&' then
    r.readPart? ((readName? cursor).map fun (name, last) ↦ (.anchor name, last))
  else if c == '!' then r.readPart? (readTag? r.inFlow cursor)
  else if c == '|' && !r.inFlow then r.readBlockScalar? true
  else if c == '>' && !r.inFlow then r.readBlockScalar? false
  else if c == '\'' || c == '"' then
    r.readPart? ((readQuoted? (c == '\'') cursor).map fun (content, last) ↦
      (.scalar content false, last))
  else if r.startsPlain c next then r.readPlainScalar?
  else none

/-- The end of all documents. -/
def finish? (r : Reading) : Option Reading := do
  let r ← (r.dedentTo (-1)).dropCandidate?
  return r.push .streamEnd

/-- Reads one token more, or the end, and whether it was the end. -/
def readOn? (r : Reading) : Option (Reading × Bool) := do
  let r ← (r.skipToToken (r.cursor.rest.length + 1)).dropStale?
  let r := r.dedentTo r.cursor.column
  match r.cursor.rest with
  | [] => return (← r.finish?, true)
  | c :: _ => return (← (← r.readAt? c).dropStale?, false)

/-- The tokens that are known for good: those before the first candidate. -/
def known (r : Reading) : List Token :=
  let places := (r.candidate :: r.candidates).filterMap fun c ↦ c.map Candidate.place
  r.tokens.take (places.foldl min r.tokens.length)

/-- Reads on up to the end. -/
def readAll (r : Reading) : Nat → List Token
  | 0 => r.known ++ [.unreadable]
  | fuel + 1 =>
    match r.readOn? with
    | none => r.known ++ [.unreadable]
    | some (r, true) => r.tokens
    | some (r, false) => readAll r fuel

end Reading

/-- The tokens of a text. -/
def tokens (text : Text) : List Token :=
  if text.all isAllowed then (Reading.start text).readAll (text.length + 1) else [.unreadable]

end Dialogue.Yaml
