import Dialogue.Shell.Token

/-!
# Reading shell commands

A text is read as lists of commands, one line after the other. Every reading function takes an
amount of fuel that bounds its nesting, and the length of the text is enough; a text that is wrong
has a flaw. Where commands are put together from tokens, the token that comes next is passed on with
the position behind it.
-/

set_option autoImplicit false
set_option relaxedAutoImplicit false

namespace Dialogue.Shell

/-! ### Parts without commands -/

/-- The characters of a word that stand for themselves. -/
def isPlain (c : Char) : Bool :=
  !isMeta c && !"'\"\\$\x60".toList.contains c

/-- What the reading of a word is in. -/
inductive Quoting where
  /-- Between double quotes. -/
  | quotes
  /-- Between braces that are not in double quotes. -/
  | braces
  /-- Between braces that are in double quotes. -/
  | quotedBraces
  /-- In a document. -/
  | document
  /-- In an expression, within a number of parentheses. -/
  | expression (depth : Nat)
  deriving Repr, DecidableEq, Inhabited

namespace Quoting

/-- Whether what is read counts as quoted. -/
def isQuoted (quoting : Quoting) : Bool :=
  quoting != .braces

/-- Whether a backslash takes its meaning from a character. -/
def escapes (quoting : Quoting) (c : Char) : Bool :=
  match quoting with
  | .quotes => "$\"\\\x60".toList.contains c
  | .braces => true
  | .quotedBraces => "$\"\\\x60\x7d".toList.contains c
  | .document | .expression _ => "$\\\x60".toList.contains c

/-- Whether a character means something. -/
def isSpecial (quoting : Quoting) (c : Char) : Bool :=
  c == '\\' || c == '$' || c == '\x60' ||
    match quoting with
    | .quotes => c == '"'
    | .braces => c == '\'' || c == '"' || c == '\x7d'
    | .quotedBraces => c == '"' || c == '\x7d'
    | .document => false
    | .expression _ => c == '(' || c == ')'

end Quoting

/-- The text between two single quotes, from behind the first one, and the position behind. -/
def singleQuoted (scan : Scan) : Except Flaw (Text × Scan) :=
  let inside := scan.rest.takeWhile (· != '\'')
  let last := scan.pass inside
  if last.rest.isEmpty then .error (last.tooShort "Unterminated quoted string")
  else .ok (inside, last.skip 1)

/-- The command between two backquotes, in which a backslash takes its meaning from some characters,
and what stands behind them. -/
def backquoted? (inQuotes : Bool) : Text → Option (Text × Text)
  | [] => none
  | '\x60' :: rest => some ([], rest)
  | '\\' :: c :: rest =>
    (backquoted? inQuotes rest).map fun (text, rest) ↦
      if c == '\n' then (text, rest)
      else if "$\\\x60".toList.contains c || (inQuotes && c == '"') then (c :: text, rest)
      else ('\\' :: c :: text, rest)
  | c :: rest => (backquoted? inQuotes rest).map fun (text, rest) ↦ (c :: text, rest)

/-- The name of a parameter in braces, and whether its size is meant. -/
def bracedName? (scan : Scan) : Option (Text × Bool × Scan) :=
  let name (scan : Scan) : Option (Text × Scan) :=
    match scan.rest with
    | [] => none
    | c :: _ =>
      if isNameStart c then some (scan.takeRun isNameChar scan.rest.length)
      else if c.isDigit then some (scan.takeRun Char.isDigit scan.rest.length)
      else if isMark c then some ([c], (scan.skip 1).joined)
      else none
  match scan.rest with
  | '#' :: _ =>
    let behind := (scan.skip 1).joined
    match name behind with
    | some (other, last) =>
      if other.head?.any isNameChar || last.rest.head? == some '\x7d' then some (other, true, last)
      else some (['#'], false, behind)
    | none => some (['#'], false, behind)
  | _ => (name scan).map fun (other, last) ↦ (other, false, last)

/-- The change that is written behind a name in braces, and whether an empty value counts as none.
-/
def changeAt? (scan : Scan) : Option (Change × Bool × Scan) :=
  let made (change : Change) (emptyToo : Bool) (count : Nat) : Option (Change × Bool × Scan) :=
    some (change, emptyToo, scan.skip count)
  match scan.rest with
  | ':' :: '-' :: _ => made .default true 2
  | ':' :: '=' :: _ => made .assign true 2
  | ':' :: '+' :: _ => made .alternative true 2
  | ':' :: '?' :: _ => made .demand true 2
  | '-' :: _ => made .default false 1
  | '=' :: _ => made .assign false 1
  | '+' :: _ => made .alternative false 1
  | '?' :: _ => made .demand false 1
  | '#' :: '#' :: _ => made (.dropStart true) false 2
  | '#' :: _ => made (.dropStart false) false 1
  | '%' :: '%' :: _ => made (.dropEnd true) false 2
  | '%' :: _ => made (.dropEnd false) false 1
  | _ => none

/-- Whether the word of a change is a pattern, in which quotes count anew. -/
def Change.takesPattern : Change → Bool
  | dropStart _ | dropEnd _ => true
  | _ => false

/-- The text of a word that names the end of a document, without its quotes, and whether there are
any. -/
def markOf (word : Word) : Text × Bool :=
  (word.flatMap fun
    | .literal text | .quoted text => text
    | _ => [],
   word.any fun
    | .quoted _ => true
    | _ => false)

/-- The parts of a word between double quotes. All arguments, and nothing else, may come to no text
at all; whatever else stands there comes to one at least. -/
def quotedParts (inner : Word) : Word :=
  match inner with
  | [.parameter ['@'] true] => inner
  | _ => consText true [] inner

/-- The commands of a choice between two others. -/
def Command.chosen (condition positive : Command) : Option Command → Command
  | some negative => .choice condition positive negative
  | none => .choice condition positive .nothing

/-- A token as a reserved word, if it is one. -/
def Token.reservedIf (keywords : Bool) (token : Token) : Token :=
  match token with
  | .word _ (some text) => if keywords && reservedWords.contains text then .reserved text else token
  | _ => token

/-- A list of commands, and the token that comes next. -/
abbrev Listed := Command × Token × Scan

mutual

/-- Reads what stands behind a dollar sign. -/
def dollar (quoting : Option Quoting) (scan : Scan) : Nat → Except Flaw (Part × Scan)
  | 0 => .error (scan.tooShort "end of file unexpected")
  | fuel + 1 =>
    let quoted := quoting.any Quoting.isQuoted
    let scan := scan.joined
    match scan.rest with
    | '(' :: rest =>
      let inner := (scan.skip 1).joined
      if (if rest.head? == some '(' then true else inner.rest.head? == some '(') then do
        let (expression, _, last) ← inside (.expression 0) (inner.skip 1) fuel
        return (.arithmetic expression quoted, last)
      else do
        let (command, token, last) ← list 2 none [] inner fuel
        match token with
        | .closing => return (.output command quoted, last)
        | _ => .error (unexpected token (some Token.closing.name) last)
    | '\x7b' :: _ =>
      let inner := (scan.skip 1).joined
      match bracedName? inner with
      | none =>
        if inner.rest.isEmpty then .error (inner.tooShort "Missing '\x7d'")
        else do
          let (_, _, last) ← inside (if quoted then .quotedBraces else .braces) inner fuel
          return (.senseless, last)
      | some (name, sized, behind) =>
        match behind.rest with
        | [] => .error (behind.tooShort "Missing '\x7d'")
        | '\x7d' :: _ =>
          .ok (if sized then .size name quoted else .parameter name quoted, behind.skip 1)
        | _ =>
          match if sized then none else changeAt? behind with
          | none => do
            let (_, _, last) ← inside (if quoted then .quotedBraces else .braces) behind fuel
            return (.senseless, last)
          | some (change, emptyToo, start) => do
            let inner : Quoting :=
              if quoted && !change.takesPattern then .quotedBraces else .braces
            let (word, _, last) ← inside inner start fuel
            let word := if inner = .braces then withHomes false true word else word
            return (.changed name change emptyToo word quoted, last)
    | c :: _ =>
      if isNameStart c then
        let (name, last) := scan.takeRun isNameChar scan.rest.length
        .ok (.parameter name quoted, last)
      else if c.isDigit || isMark c then .ok (.parameter [c] quoted, scan.skip 1)
      else .ok (if quoted then .quoted ['$'] else .literal ['$'], scan)
    | [] => .ok (if quoted then .quoted ['$'] else .literal ['$'], scan)
termination_by structural fuel => fuel

/-- Reads a command between backquotes, from behind the first one. -/
def backquotedPart (quoting : Option Quoting) (scan : Scan) : Nat → Except Flaw (Part × Scan)
  | 0 => .error (scan.tooShort "end of file unexpected")
  | fuel + 1 =>
    let inQuotes := quoting.any fun q ↦ q == .quotes || q == .quotedBraces
    match backquoted? inQuotes scan.rest with
    | none => .error (scan.tooShort "EOF in backquote substitution")
    | some (text, rest) => do
      let last := scan.pass (scan.rest.take (scan.rest.length - rest.length))
      let (command, token, behind) ← list 2 none []
        { scan with rest := text, taken := 0, complete := true } fuel
      match token with
      | .finish => return (.output command (quoting.any Quoting.isQuoted), last)
      | _ => .error (unexpected token none behind)
termination_by structural fuel => fuel

/-- Reads on up to the mark that ends what the reading is in; a document ends with its text. Says
also whether a quote was seen. -/
def inside (quoting : Quoting) (scan : Scan) : Nat → Except Flaw (Word × Bool × Scan)
  | 0 => .error (scan.tooShort "end of file unexpected")
  | fuel + 1 =>
    let quoted := quoting.isQuoted
    let run := scan.rest.takeWhile fun c ↦ !quoting.isSpecial c
    if !run.isEmpty then do
      let (parts, seen, last) ← inside quoting (scan.pass run) fuel
      return (consText quoted run parts, seen, last)
    else
      match scan.rest with
      | [] =>
        match quoting with
        | .document => .ok ([], false, scan)
        | .quotes => .error (scan.tooShort "Unterminated quoted string")
        | .expression _ => .error (scan.tooShort "Missing '))'")
        | .braces | .quotedBraces => .error (scan.tooShort "Missing '\x7d'")
      | '\\' :: '\n' :: _ => inside quoting (scan.skip 1).nextLine fuel
      | ['\\'] => do
        let (parts, seen, last) ← inside quoting (scan.skip 1) fuel
        return (consText quoted ['\\'] parts, seen, last)
      | '\\' :: c :: _ => do
        let (parts, seen, last) ← inside quoting (scan.skip 2) fuel
        return (consText true (if quoting.escapes c then [c] else ['\\', c]) parts, seen, last)
      | '$' :: _ => do
        let (part, behind) ← dollar (some quoting) (scan.skip 1) fuel
        let (parts, seen, last) ← inside quoting behind fuel
        return (part :: parts, seen, last)
      | '\x60' :: _ => do
        let (part, behind) ← backquotedPart (some quoting) (scan.skip 1) fuel
        let (parts, seen, last) ← inside quoting behind fuel
        return (part :: parts, seen, last)
      | '\'' :: _ => do
        let (text, behind) ← singleQuoted (scan.skip 1)
        let (parts, seen, last) ← inside quoting behind fuel
        return (consText true text parts, seen, last)
      | '"' :: _ =>
        match quoting with
        | .quotes => .ok ([], false, scan.skip 1)
        | .quotedBraces => do
          let (inner, _, behind) ← inside .quotes (scan.skip 1) fuel
          let (parts, _, last) ← inside quoting behind fuel
          return (inner ++ parts, true, last)
        | _ => do
          let (inner, _, behind) ← inside .quotes (scan.skip 1) fuel
          let (parts, _, last) ← inside quoting behind fuel
          return (quotedParts inner ++ parts, true, last)
      | '(' :: _ => do
        let deeper : Quoting := match quoting with
          | .expression depth => .expression (depth + 1)
          | other => other
        let (parts, seen, last) ← inside deeper (scan.skip 1) fuel
        return (consText quoted ['('] parts, seen, last)
      | ')' :: _ =>
        match quoting with
        | .expression 0 =>
          let behind := (scan.skip 1).joined
          if behind.rest.head? == some ')' then .ok ([], false, behind.skip 1)
          else do
            let (parts, seen, last) ← inside quoting behind fuel
            return (consText quoted [')'] parts, seen, last)
        | other => do
          let outer : Quoting := match other with
            | .expression depth => .expression (depth - 1)
            | _ => other
          let (parts, seen, last) ← inside outer (scan.skip 1) fuel
          return (consText quoted [')'] parts, seen, last)
      | _ => .ok ([], false, scan.skip 1)
termination_by structural fuel => fuel

/-- Reads a word up to its end. Says also whether anything in it is quoted. -/
def wordParts (scan : Scan) : Nat → Except Flaw (Word × Bool × Scan)
  | 0 => .error (scan.tooShort "end of file unexpected")
  | fuel + 1 =>
    let run := scan.rest.takeWhile isPlain
    if !run.isEmpty then do
      let (parts, quoted, last) ← wordParts (scan.skip run.length) fuel
      return (consText false run parts, quoted, last)
    else
      match scan.rest with
      | [] => .ok ([], false, scan)
      | '\'' :: _ => do
        let (text, behind) ← singleQuoted (scan.skip 1)
        let (parts, _, last) ← wordParts behind fuel
        return (consText true text parts, true, last)
      | '"' :: _ => do
        let (inner, _, behind) ← inside .quotes (scan.skip 1) fuel
        let (parts, _, last) ← wordParts behind fuel
        return (quotedParts inner ++ parts, true, last)
      | '\\' :: '\n' :: _ => wordParts (scan.skip 1).nextLine fuel
      | ['\\'] => .ok ([.literal ['\\']], false, scan.skip 1)
      | '\\' :: c :: _ => do
        let (parts, _, last) ← wordParts (scan.skip 2) fuel
        return (consText true [c] parts, true, last)
      | '$' :: _ => do
        let (part, behind) ← dollar none (scan.skip 1) fuel
        let (parts, quoted, last) ← wordParts behind fuel
        match part with
        | .literal text => return (consText false text parts, quoted, last)
        | _ => return (part :: parts, quoted, last)
      | '\x60' :: _ => do
        let (part, behind) ← backquotedPart none (scan.skip 1) fuel
        let (parts, quoted, last) ← wordParts behind fuel
        return (part :: parts, quoted, last)
      | _ => .ok ([], false, scan)
termination_by structural fuel => fuel

/-- Reads a token, behind blanks. A digit may stand in front of a redirection. A word may be an
alias, unless it is one of those that are being replaced already; so may the word behind an alias
that ends with a blank. -/
def token (aliases : Bool) (replaced : List Text) (scan : Scan) : Nat → Except Flaw (Token × Scan)
  | 0 => .error (scan.tooShort "end of file unexpected")
  | fuel + 1 =>
    let aliases := aliases || scan.leavesAlias scan.skipBlanks
    let scan := scan.skipBlanks
    match operator? scan with
    | some found => .ok found
    | none =>
      match redirection? none scan with
      | some found => .ok found
      | none => do
        let (parts, quoted, last) ← wordParts scan fuel
        let plain := if quoted then none else plainText? parts
        let numbered := match plain with
          | some [digit] =>
            if digit.isDigit then redirection? (Text.toNat? 10 [digit]) last else none
          | _ => none
        match numbered with
        | some found => return found
        | none =>
          match plain.bind fun text ↦ (last.aliases.lookup text).map fun value ↦ (text, value) with
          | some (text, value) =>
            if aliases && !replaced.contains text then
              token aliases (text :: replaced) (last.replacing value) fuel
            else return (.word parts plain, last)
          | none => return (.word parts plain, last)
termination_by structural fuel => fuel

/-- The next token where a command may begin, which is given or read. Line breaks may be passed
over, and words may be reserved. -/
def next (given : Option Token) (breaksToo keywords aliases : Bool) (scan : Scan) :
    Nat → Except Flaw (Token × Scan)
  | 0 => .error (scan.tooShort "end of file unexpected")
  | fuel + 1 => do
    let (found, last) ← match given with
      | some found => pure (found, scan)
      | none => token aliases [] scan fuel
    match found with
    | .lineBreak =>
      if breaksToo then next none breaksToo keywords aliases last fuel else return (found, last)
    | _ => return (found.reservedIf keywords, last)
termination_by structural fuel => fuel

/-- Reads the target of a redirection, behind its mark. -/
def redirectionBehind (stream : Nat) (direction : Direction) (strip : Bool) (scan : Scan) :
    Nat → Except Flaw (Redirection × Scan)
  | 0 => .error (scan.tooShort "end of file unexpected")
  | fuel + 1 => do
    let (found, last) ← token false [] scan fuel
    match found with
    | .word parts _ =>
      match direction with
      | .document =>
        let (mark, quoted) := markOf parts
        let (text, behind) ← last.takeDocument mark strip
        if quoted then return (.mk stream direction [.quoted text], behind)
        else
          let (body, _, _) ← inside .document
            { behind with rest := text, taken := 0, complete := true } fuel
          return (.mk stream direction body, behind)
      | _ => return (.mk stream direction (withHomes false true parts), last)
    | _ => .error (unexpected found none last)
termination_by structural fuel => fuel

/-- Reads redirections, and the token behind them. -/
def redirections (scan : Scan) : Nat → Except Flaw (List Redirection × Token × Scan)
  | 0 => .error (scan.tooShort "end of file unexpected")
  | fuel + 1 => do
    let (found, last) ← next none false true false scan fuel
    match found with
    | .redirection stream direction strip =>
      let (change, behind) ← redirectionBehind stream direction strip last fuel
      let (others, found, last) ← redirections behind fuel
      return (change :: others, found, last)
    | _ => return ([], found, last)
termination_by structural fuel => fuel

/-- Reads the assignments, words and redirections of a simple command, and the token behind it. A
parenthesis behind a single word makes it the name of a function. -/
def simple (line : Nat) (assignments : List (Text × Word)) (words : List Word)
    (changes : List Redirection) (given : Token) (scan : Scan) : Nat → Except Flaw Listed
  | 0 => .error (scan.tooShort "end of file unexpected")
  | fuel + 1 =>
    let goOn (assignments : List (Text × Word)) (words : List Word) (changes : List Redirection)
        (scan : Scan) : Except Flaw Listed := do
      let (found, last) ← token words.isEmpty [] scan fuel
      simple line assignments words changes found last fuel
    match given with
    | .redirection stream direction strip => do
      let (change, behind) ← redirectionBehind stream direction strip scan fuel
      goOn assignments words (changes ++ [change]) behind
    | .word parts _ =>
      match if words.isEmpty then assignment? parts else none with
      | some assigned => goOn (assignments ++ [assigned]) words changes scan
      | none =>
        let declares := match words with
          | [.literal name] :: _ =>
            ["export", "readonly", "local"].any fun other ↦ name == other.toList
          | _ => false
        let word := match if declares then assignment? parts else none with
          | some (name, value) => consText false (name ++ ['=']) value
          | none => withHomes false true parts
        goOn assignments (words ++ [word]) changes scan
    | .opening =>
      match assignments, words, changes with
      | [], [[.literal name]], [] => do
        let (found, last) ← token false [] scan fuel
        match found with
        | .closing =>
          if !isName name then .error (last.wrong "Bad function name")
          else
            let (found, last) ← next none true true true last fuel
            let (body, found, last) ← command found last fuel
            return (.function name body, found, last)
        | _ => .error (unexpected found (some Token.closing.name) last)
      | _, _, _ => .ok (.simple line assignments words changes, given, scan)
    | _ => .ok (.simple line assignments words changes, given, scan)
termination_by structural fuel => fuel

/-- Reads the words that a loop goes over, and the token behind them. -/
def loopWords (words : List Word) (scan : Scan) : Nat → Except Flaw (List Word × Token × Scan)
  | 0 => .error (scan.tooShort "end of file unexpected")
  | fuel + 1 => do
    let (found, last) ← token false [] scan fuel
    match found with
    | .word parts _ => loopWords (words ++ [withHomes false true parts]) last fuel
    | _ => return (words, found, last)
termination_by structural fuel => fuel

/-- Reads the patterns of a branch, of which the first token is given, up to the parenthesis behind
them. -/
def patterns (words : List Word) (given : Token) (scan : Scan) :
    Nat → Except Flaw (List Word × Scan)
  | 0 => .error (scan.tooShort "end of file unexpected")
  | fuel + 1 => do
    let parts : Word := match given with
      | .word parts _ => withHomes false true parts
      | .reserved text => [.literal text]
      | other => [.literal other.name]
    let (found, last) ← token false [] scan fuel
    match found with
    | .pipe =>
      let (found, last) ← token false [] last fuel
      patterns (words ++ [parts]) found last fuel
    | .closing => return (words ++ [parts], last)
    | _ => .error (unexpected found (some Token.closing.name) last)
termination_by structural fuel => fuel

/-- Reads the branches of a case distinction, and its end. -/
def branches (given : Option Token) (scan : Scan) :
    Nat → Except Flaw (List (List Word × Command) × Scan)
  | 0 => .error (scan.tooShort "end of file unexpected")
  | fuel + 1 => do
    let (found, last) ← next given true true false scan fuel
    if found.isReserved "esac" then return ([], last)
    else
      let (found, last) ← match found with
        | .opening => token false [] last fuel
        | _ => pure (found, last)
      let (words, last) ← patterns [] found last fuel
      let (body, found, last) ← list 2 none [] last fuel
      let (found, last) ← next (some found) true true false last fuel
      match found with
      | .branchEnd =>
        let (others, last) ← branches none last fuel
        return ((words, body) :: others, last)
      | _ =>
        if found.isReserved "esac" then return ([(words, body)], last)
        else .error (unexpected found (some Token.branchEnd.name) last)
termination_by structural fuel => fuel

/-- Reads what stands behind the word that begins a choice, and its end. -/
def choice (scan : Scan) : Nat → Except Flaw (Command × Scan)
  | 0 => .error (scan.tooShort "end of file unexpected")
  | fuel + 1 => do
    let (condition, found, last) ← list 0 none [] scan fuel
    if !found.isReserved "then" then
      .error (unexpected found (some "\"then\"".toList) last)
    else
      let (positive, found, last) ← list 0 none [] last fuel
      if found.isReserved "elif" then
        let (negative, last) ← choice last fuel
        return (.choice condition positive negative, last)
      else
        let (negative, found, last) ←
          if found.isReserved "else" then do
            let (negative, found, last) ← list 0 none [] last fuel
            pure (some negative, found, last)
          else pure (none, found, last)
        if found.isReserved "fi" then return (Command.chosen condition positive negative, last)
        else .error (unexpected found (some "\"fi\"".toList) last)
termination_by structural fuel => fuel

/-- Reads a command that is built from others, if the given token begins one. -/
def compound (given : Token) (scan : Scan) : Nat → Except Flaw (Option (Command × Scan))
  | 0 => .error (scan.tooShort "end of file unexpected")
  | fuel + 1 =>
    let closedBy (due : Token) (found : Token) (last : Scan) (command : Command) :
        Except Flaw (Option (Command × Scan)) :=
      if found.name == due.name then .ok (some (command, last))
      else .error (unexpected found (some due.name) last)
    match given with
    | .opening => do
      let (body, found, last) ← list 0 none [] scan fuel
      closedBy .closing found last (.subshell body)
    | .reserved word =>
      match String.ofList word with
      | "\x7b" => do
        let (body, found, last) ← list 0 none [] scan fuel
        closedBy (.reserved "\x7d".toList) found last body
      | "if" => do
        let (command, last) ← choice scan fuel
        return some (command, last)
      | "while" | "until" => do
        let (condition, found, last) ← list 0 none [] scan fuel
        if !found.isReserved "do" then .error (unexpected found (some "\"do\"".toList) last)
        else
          let (body, found, last) ← list 0 none [] last fuel
          closedBy (.reserved "done".toList) found last
            (.loop (word == "until".toList) condition body)
      | "for" => do
        let (found, last) ← token false [] scan fuel
        match found with
        | .word _ (some name) =>
          if !isName name then .error (last.wrong "Bad for loop variable")
          else
            let (found, last) ← next none true true true last fuel
            let (words, found, last) ←
              if found.isReserved "in" then do
                let (words, found, last) ← loopWords [] last fuel
                match found with
                | .lineBreak | .semicolon => pure (words, none, last)
                | _ => .error (unexpected found none last)
              else
                let all : List Word := [[.parameter ['@'] true]]
                match found with
                | .semicolon => pure (all, none, last)
                | _ => pure (all, some found, last)
            let (found, last) ← next found true true true last fuel
            if !found.isReserved "do" then .error (unexpected found (some "\"do\"".toList) last)
            else
              let (body, found, last) ← list 0 none [] last fuel
              closedBy (.reserved "done".toList) found last (.each scan.line name words body)
        | _ => .error (last.wrong "Bad for loop variable")
      | "case" => do
        let (found, last) ← token false [] scan fuel
        match found with
        | .word parts _ =>
          let (found, last) ← next none true true true last fuel
          if !found.isReserved "in" then .error (unexpected found (some "\"in\"".toList) last)
          else
            let (branches, last) ← branches none last fuel
            return some (.cases scan.line (withHomes false true parts) branches, last)
        | _ => .error (unexpected found (some "word".toList) last)
      | _ => return none
    | _ => return none
termination_by structural fuel => fuel

/-- Reads a command that begins with the given token, and the token behind it. -/
def command (given : Token) (scan : Scan) : Nat → Except Flaw Listed
  | 0 => .error (scan.tooShort "end of file unexpected")
  | fuel + 1 => do
    match ← compound given scan fuel with
    | some (body, last) =>
      let (changes, found, last) ← redirections last fuel
      return (if changes.isEmpty then body else .redirected scan.line body changes, found, last)
    | none =>
      match given with
      | .word _ _ | .redirection _ _ _ => simple scan.line [] [] [] given scan fuel
      | _ => .error (unexpected given none scan)
termination_by structural fuel => fuel

/-- Reads the commands of a pipeline, behind the first ones. -/
def pipelineRest (commands : List Command) (found : Token) (scan : Scan) :
    Nat → Except Flaw Listed
  | 0 => .error (scan.tooShort "end of file unexpected")
  | fuel + 1 =>
    match found with
    | .pipe => do
      let (found, last) ← next none true true true scan fuel
      let (body, found, last) ← command found last fuel
      pipelineRest (commands ++ [body]) found last fuel
    | _ =>
      match commands with
      | [single] => .ok (single, found, scan)
      | _ => .ok (.pipeline commands, found, scan)
termination_by structural fuel => fuel

/-- Reads a pipeline that begins with the given token, and the token behind it. -/
def pipeline (given : Token) (scan : Scan) : Nat → Except Flaw Listed
  | 0 => .error (scan.tooShort "end of file unexpected")
  | fuel + 1 =>
    if given.isReserved "!" then do
      let (found, last) ← next none false true true scan fuel
      let (body, found, last) ← command found last fuel
      let (body, found, last) ← pipelineRest [body] found last fuel
      return (.negation body, found, last)
    else do
      let (body, found, last) ← command given scan fuel
      pipelineRest [body] found last fuel
termination_by structural fuel => fuel

/-- Reads commands that depend on the success of those before them. -/
def conditional (first : Command) (found : Token) (scan : Scan) : Nat → Except Flaw Listed
  | 0 => .error (scan.tooShort "end of file unexpected")
  | fuel + 1 =>
    let goOn (join : Command → Command → Command) : Except Flaw Listed := do
      let (start, last) ← next none true true true scan fuel
      let (second, found, last) ← pipeline start last fuel
      conditional (join first second) found last fuel
    match found with
    | .both => goOn .both
    | .either => goOn .either
    | _ => .ok (first, found, scan)
termination_by structural fuel => fuel

/-- Reads a list of commands behind others, and the token behind it. In mode 0 there must be a
command, in mode 2 there need not be one; in mode 1 the list ends with its line. -/
def list (mode : Nat) (given : Option Token) (before : List Command) (scan : Scan) :
    Nat → Except Flaw Listed
  | 0 => .error (scan.tooShort "end of file unexpected")
  | fuel + 1 => do
    let all (commands : List Command) : Command :=
      commands.foldl (fun later earlier ↦ earlier.andThen later) .nothing
    let (found, last) ← next given (mode != 1) true true scan fuel
    let ended := match found with
      | .lineBreak | .finish => true
      | _ => found.endsList && mode != 1 && (mode == 2 || !before.isEmpty)
    if ended then return (all before, found, last)
    else
      let (first, found, last) ← pipeline found last fuel
      let (first, found, last) ← conditional first found last fuel
      match found with
      | .background => list mode none (.background first :: before) last fuel
      | .semicolon => list mode none (first :: before) last fuel
      | .lineBreak | .finish => list mode (some found) (first :: before) last fuel
      | _ =>
        if mode = 1 then .error (unexpected found none last)
        else return (all (first :: before), found, last)
termination_by structural fuel => fuel

end

/-- The commands of the next line of a text, which may go on over more lines, and the position
behind it; nothing at the end of the text. -/
def Command.next? (scan : Scan) : Except Flaw (Option (Command × Scan)) := do
  let (command, found, last) ← list 1 none [] scan (4 * scan.rest.length + 64)
  match command, found with
  | _, .finish =>
    if !scan.complete then .error (last.tooShort "end of file unexpected")
    else
      match command with
      | .nothing => return none
      | _ => return some (command, { last with blankEnds := [] })
  | _, _ => return some (command, { last with blankEnds := [] })

end Dialogue.Shell
