import Dialogue.Shell.Command

/-!
# Reading a shell's text

A text is read from a position that knows its line. A backslash joins a line with the next one, and
the lines of a document that is given within the text are taken out of it as soon as its mark is
read, so that the rest of the mark's line goes on with what stands behind the document. What is read
are tokens: operators, words, and words that are reserved where a command may begin.
-/

set_option autoImplicit false
set_option relaxedAutoImplicit false

namespace Dialogue.Shell

/-! ### Characters -/

/-- Whether a character may start a name. -/
def isNameStart (c : Char) : Bool := c.isAlpha || c == '_'

/-- Whether a character may stand in a name. -/
def isNameChar (c : Char) : Bool := c.isAlphanum || c == '_'

/-- Whether a text is a name. -/
def isName (text : Text) : Bool :=
  text.head?.any isNameStart && text.all isNameChar

/-- Whether a character ends a word. -/
def isMeta (c : Char) : Bool :=
  c == ' ' || c == '\t' || c == '\n' || ";&|<>()".toList.contains c

/-- Whether a parameter may have a mark for its name. -/
def isMark (c : Char) : Bool :=
  "@*#?$!-".toList.contains c

/-! ### Flaws -/

/-- What is wrong with a text of commands. -/
structure Flaw where
  message : Text
  line : Nat
  /-- Whether the text may only be too short. -/
  unfinished : Bool
  deriving Repr, DecidableEq, Inhabited

/-! ### Positions -/

/-- A position in a text of commands. -/
structure Scan where
  rest : Text
  line : Nat
  /-- How many lines were taken out behind the next line break. -/
  taken : Nat
  /-- Whether nothing can follow the text. -/
  complete : Bool
  /-- The words that stand for other texts. -/
  aliases : List (Text × Text)
  /-- How much is left behind texts that end with a blank and were put in place of such words. -/
  blankEnds : List Nat
  deriving Repr, Inhabited

namespace Scan

/-- The start of a text. -/
def start (text : Text) (line : Nat) (complete : Bool) (aliases : List (Text × Text)) : Scan :=
  ⟨text, line, 0, complete, aliases, []⟩

/-- Whether a text that ends with a blank, and was put in place of a word, ends between two
positions. -/
def leavesAlias (scan last : Scan) : Bool :=
  !scan.blankEnds.isEmpty
    && scan.blankEnds.any fun n ↦ last.rest.length ≤ n && n ≤ scan.rest.length

/-- The position in front of a text that is put in place of a word. -/
def replacing (scan : Scan) (text : Text) : Scan :=
  let endsBlank := text.getLast? == some ' ' || text.getLast? == some '\t'
  { scan with
    rest := text ++ scan.rest
    blankEnds := if endsBlank then scan.rest.length :: scan.blankEnds else scan.blankEnds }

/-- The position behind a line break. -/
def nextLine (scan : Scan) : Scan :=
  { scan with rest := scan.rest.drop 1, line := scan.line + 1 + scan.taken, taken := 0 }

/-- The position behind some characters, none of which breaks the line. -/
def skip (scan : Scan) (count : Nat) : Scan :=
  { scan with rest := scan.rest.drop count }

/-- The position behind some text. -/
def pass (scan : Scan) (text : Text) : Scan :=
  let lines := text.countP (· == '\n')
  { scan with
    rest := scan.rest.drop text.length
    line := scan.line + lines + (if lines = 0 then 0 else scan.taken)
    taken := if lines = 0 then scan.taken else 0 }

/-- The position behind continued lines, up to a number of them. -/
def joinedUpTo (scan : Scan) : Nat → Scan
  | 0 => scan
  | lines + 1 =>
    match scan.rest with
    | '\\' :: '\n' :: _ => (scan.skip 1).nextLine.joinedUpTo lines
    | _ => scan

/-- The position behind continued lines. -/
def joined (scan : Scan) : Scan :=
  match scan.rest with
  | '\\' :: '\n' :: _ => scan.joinedUpTo scan.rest.length
  | _ => scan

/-- Takes the longest run of characters that satisfy a test, over continued lines. -/
def takeRun (test : Char → Bool) (scan : Scan) : Nat → Text × Scan
  | 0 => ([], scan)
  | fuel + 1 =>
    let scan := scan.joined
    let run := scan.rest.takeWhile test
    if run.isEmpty then ([], scan)
    else
      let (more, last) := takeRun test (scan.pass run) fuel
      (run ++ more, last)

/-- The position behind blanks, continued lines and a remark. -/
def skipBlanksUpTo (scan : Scan) : Nat → Scan
  | 0 => scan
  | fuel + 1 =>
    let scan := scan.joined
    match scan.rest with
    | ' ' :: _ | '\t' :: _ => (scan.skip 1).skipBlanksUpTo fuel
    | '#' :: _ => scan.skip (scan.rest.takeWhile (· != '\n')).length
    | _ => scan

/-- The position behind blanks, continued lines and a remark. -/
def skipBlanks (scan : Scan) : Scan :=
  match scan.rest with
  | ' ' :: _ | '\t' :: _ | '#' :: _ | '\\' :: _ => scan.skipBlanksUpTo (scan.rest.length + 1)
  | _ => scan

/-- The flaw of a text that ends too soon. -/
def tooShort (scan : Scan) (message : String) : Flaw :=
  ⟨message.toList, scan.line, true⟩

/-- A flaw at a position. -/
def wrong (scan : Scan) (message : String) : Flaw :=
  ⟨message.toList, scan.line, false⟩

/-! ### Documents -/

/-- Takes lines up to the one that is the given mark, and yields them and the text behind it, or
nothing if there is no such line. A document may be stripped of the tabulators that begin a line. -/
def documentLines? (mark : Text) (strip : Bool) : List Text → Option (List Text × List Text)
  | [] => none
  | line :: rest =>
    let line := if strip then line.dropWhile (· == '\t') else line
    if line = mark then some ([], rest)
    else (documentLines? mark strip rest).map fun (lines, behind) ↦ (line :: lines, behind)

/-- Takes a document out of the lines behind the current one. A document without an end goes up to
the end of a complete text. -/
def takeDocument (scan : Scan) (mark : Text) (strip : Bool) : Except Flaw (Text × Scan) :=
  let current := scan.rest.takeWhile (· != '\n')
  let behind := scan.rest.drop (current.length + 1)
  let lines := Text.splitOn '\n' behind
  match documentLines? mark strip lines with
  | some (body, rest) =>
    .ok (body.flatMap (· ++ ['\n']),
      { scan with
        rest := current ++ '\n' :: Text.joinWith ['\n'] rest
        taken := scan.taken + body.length + 1 })
  | none =>
    if scan.complete then
      let body := if strip then lines.map (·.dropWhile (· == '\t')) else lines
      .ok (Text.joinWith ['\n'] body,
        { scan with rest := current ++ ['\n'], taken := scan.taken + body.length })
    else .error (scan.tooShort "end of file unexpected")

end Scan

/-! ### Tokens -/

/-- A token of a text of commands. -/
inductive Token where
  | finish
  | lineBreak
  | semicolon
  | background
  | both
  | either
  | pipe
  | opening
  | closing
  /-- The mark behind a branch of a case distinction. -/
  | branchEnd
  | redirection (stream : Nat) (direction : Direction) (strip : Bool)
  /-- A word, and its text if nothing in it is quoted or expanded. -/
  | word (parts : Word) (plain : Option Text)
  | reserved (word : Text)

instance : Inhabited Token := ⟨.finish⟩

namespace Token

/-- What a token is called. -/
def name : Token → Text
  | finish => "end of file".toList
  | lineBreak => "newline".toList
  | semicolon => "\";\"".toList
  | background => "\"&\"".toList
  | both => "\"&&\"".toList
  | either => "\"||\"".toList
  | pipe => "\"|\"".toList
  | opening => "\"(\"".toList
  | closing => "\")\"".toList
  | branchEnd => "\";;\"".toList
  | redirection _ _ _ => "redirection".toList
  | word _ _ => "word".toList
  | reserved text => '"' :: text ++ ['"']

/-- Whether a token is the given reserved word. -/
def isReserved (token : Token) (text : String) : Bool :=
  match token with
  | reserved other => other == text.toList
  | _ => false

/-- Whether a list of commands ends before a token. -/
def endsList : Token → Bool
  | finish | closing | branchEnd => true
  | reserved text =>
    ["do", "done", "elif", "else", "esac", "fi", "then", "\x7d"].any fun word ↦
      text == word.toList
  | _ => false

end Token

/-- The words that are reserved where a command may begin. -/
def reservedWords : List Text :=
  ["!", "case", "do", "done", "elif", "else", "esac", "fi", "for", "if", "in", "then", "until",
    "while", "\x7b", "\x7d"].map String.toList

/-- The flaw of a token that is out of place, where another one may be due. -/
def unexpected (token : Token) (due : Option Text) (scan : Scan) : Flaw where
  message := token.name ++ " unexpected".toList
    ++ (due.map fun name ↦ " (expecting ".toList ++ name ++ [')']).getD []
  line := scan.line
  unfinished := match token with
    | .finish => true
    | _ => false

/-- The operator at a position, if there is one, and the position behind it. -/
def operator? (scan : Scan) : Option (Token × Scan) :=
  let doubled (second : Char) (long short : Token) : Option (Token × Scan) :=
    let next := (scan.skip 1).joined
    if next.rest.head? == some second then some (long, next.skip 1) else some (short, next)
  match scan.rest with
  | [] => some (.finish, scan)
  | '\n' :: _ => some (.lineBreak, scan.nextLine)
  | '&' :: _ => doubled '&' .both .background
  | '|' :: _ => doubled '|' .either .pipe
  | ';' :: _ => doubled ';' .branchEnd .semicolon
  | '(' :: _ => some (.opening, scan.skip 1)
  | ')' :: _ => some (.closing, scan.skip 1)
  | _ => none

/-- The redirection at a position, from its mark, of a stream that is given in front of it or not.
-/
def redirection? (stream : Option Nat) (scan : Scan) : Option (Token × Scan) :=
  let made (count default : Nat) (direction : Direction) (strip : Bool) : Option (Token × Scan) :=
    some (.redirection (stream.getD default) direction strip, scan.skip count)
  match scan.rest with
  | '<' :: '<' :: '-' :: _ => made 3 0 .document true
  | '<' :: '<' :: _ => made 2 0 .document false
  | '<' :: '&' :: _ => made 2 0 .duplicate false
  | '<' :: '>' :: _ => made 2 0 .readWrite false
  | '<' :: _ => made 1 0 .read false
  | '>' :: '&' :: _ => made 2 1 .duplicate false
  | '>' :: '>' :: _ => made 2 1 .append false
  | '>' :: '|' :: _ => made 2 1 .overwrite false
  | '>' :: _ => made 1 1 .write false
  | _ => none

/-! ### Words -/

/-- The parts of a word with some more text in front. -/
def consText (quoted : Bool) (text : Text) (parts : Word) : Word :=
  match quoted, parts with
  | true, .quoted more :: rest => .quoted (text ++ more) :: rest
  | false, .literal more :: rest => .literal (text ++ more) :: rest
  | true, _ => .quoted text :: parts
  | false, _ => .literal text :: parts

/-- The text of a word in which nothing is quoted or expanded. -/
def plainText? : Word → Option Text
  | [.literal text] => some text
  | _ => none

/-- The user whose home a text names that begins with a tilde, and the rest. In an assignment a
colon ends the name as well. Nothing in the name may be quoted or expanded. -/
def homeAt? (assigned : Bool) (text : Text) (last : Bool) : Option (Text × Text) :=
  match text with
  | '~' :: rest =>
    let stops (c : Char) : Bool := c == '/' || (assigned && c == ':')
    let user := rest.takeWhile fun c ↦ !stops c
    let behind := rest.drop user.length
    if behind.isEmpty && !last then none else some (user, behind)
  | _ => none

/-- The parts of a literal text in which homes may be named: at the start, if it is that of a word,
and in an assignment behind colons. The fuel is the length of the text and one more. -/
def homesInText (assigned atStart last : Bool) (text : Text) : Nat → Word
  | 0 => [.literal text]
  | fuel + 1 =>
    match if atStart then homeAt? assigned text last else none with
    | some (user, behind) => .home user :: homesInText assigned false last behind fuel
    | none =>
      let start := if assigned then text.takeWhile (· != ':') else text
      match text.drop start.length with
      | [] => if text.isEmpty then [] else [.literal text]
      | c :: rest => consText false (start ++ [c]) (homesInText assigned true last rest fuel)

/-- The parts of a word with the homes that are named in it. -/
def withHomes (assigned atStart : Bool) : Word → Word
  | [] => []
  | .literal text :: rest =>
    homesInText assigned atStart rest.isEmpty text (text.length + 1)
      ++ withHomes assigned false rest
  | part :: rest => part :: withHomes assigned false rest

/-- The name that a word assigns to and the value, if it is an assignment. -/
def assignment? : Word → Option (Text × Word)
  | .literal text :: rest =>
    let name := text.takeWhile isNameChar
    match text.drop name.length with
    | '=' :: value =>
      if isName name then
        some (name, withHomes true true (if value.isEmpty then rest else .literal value :: rest))
      else none
    | _ => none
  | _ => none

end Dialogue.Shell
