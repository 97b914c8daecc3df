import Dialogue.Tool.Input
import Dialogue.Tool.Switches

/-!
# Tools for characters

`tr` replaces, removes or joins characters by sets that are written as ranges and classes, and `od`
shows the bytes of a text as numbers or characters.
-/

set_option autoImplicit false
set_option relaxedAutoImplicit false

namespace Dialogue.Tool

open Dialogue.Machine

/-! ### Sets -/

/-- The characters with numbers in a range. -/
def charsBetween (low high : Nat) : Text :=
  (List.range (high + 1 - low)).map fun n ↦ Char.ofNat (low + n)

/-- The characters of a class. -/
def classChars? (name : String) : Option Text :=
  let all := charsBetween 0 255
  let ascii := charsBetween 0 127
  match name with
  | "alnum" => some (ascii.filter Char.isAlphanum)
  | "alpha" => some (ascii.filter Char.isAlpha)
  | "blank" => some ['\t', ' ']
  | "cntrl" => some (ascii.filter fun c ↦ c.toNat < 32 || c.toNat = 127)
  | "digit" => some (ascii.filter Char.isDigit)
  | "graph" => some (charsBetween 33 126)
  | "lower" => some (ascii.filter Char.isLower)
  | "print" => some (charsBetween 32 126)
  | "punct" => some ((charsBetween 33 126).filter fun c ↦ !c.isAlphanum)
  | "space" => some (all.filter fun c ↦ c == ' ' || (9 ≤ c.toNat && c.toNat ≤ 13))
  | "upper" => some (ascii.filter Char.isUpper)
  | "xdigit" => some (ascii.filter fun c ↦
    c.isDigit || ('a' ≤ c && c ≤ 'f') || ('A' ≤ c && c ≤ 'F'))
  | _ => none

/-- A character as it is written in a set, and whether it stood behind a backslash. -/
def setMarks : Text → List (Char × Bool)
  | [] => []
  | ['\\'] => [('\\', true)]
  | '\\' :: c :: rest =>
    let isOctal (c : Char) : Bool := '0' ≤ c && c ≤ '7'
    if isOctal c then
      match rest with
      | d :: e :: more =>
        let value (digits : Text) : Char := Char.ofNat ((Text.toNat? 8 digits).getD 0)
        if isOctal d && isOctal e && c ≤ '3' then (value [c, d, e], true) :: setMarks more
        else if isOctal d then (value [c, d], true) :: setMarks (e :: more)
        else (value [c], true) :: setMarks (d :: e :: more)
      | [d] =>
        if isOctal d then [(Char.ofNat ((Text.toNat? 8 [c, d]).getD 0), true)]
        else [(Char.ofNat ((Text.toNat? 8 [c]).getD 0), true), (d, false)]
      | [] => [(Char.ofNat ((Text.toNat? 8 [c]).getD 0), true)]
    else
      let named := match c with
        | 'a' => Char.ofNat 7
        | 'b' => Char.ofNat 8
        | 'f' => Char.ofNat 12
        | 'n' => '\n'
        | 'r' => '\r'
        | 't' => '\t'
        | 'v' => Char.ofNat 11
        | other => other
      (named, true) :: setMarks rest
  | c :: rest => (c, false) :: setMarks rest

/-- A part of a set. -/
inductive SetPart where
  | chars (chars : Text)
  /-- A character some number of times; zero times stand for as often as it takes. -/
  | repeated (char : Char) (count : Nat)
  deriving Repr, DecidableEq, Inhabited

/-- The text between two marks and the brackets around it, and what follows. -/
def bracketed? (mark : Char) (marks : List (Char × Bool)) : Option (Text × List (Char × Bool)) :=
  let inner := marks.takeWhile fun (c, _) ↦ c != ']'
  match inner.getLast?, marks.drop inner.length with
  | some (c, false), _ :: rest =>
    if c == mark && 1 < inner.length then some (inner.dropLast.map Prod.fst, rest) else none
  | _, _ => none

/-- The parts of a set. The fuel is its length. -/
def setPartsUpTo (marks : List (Char × Bool)) : Nat → Except Text (List SetPart)
  | 0 => .ok []
  | fuel + 1 =>
    let goOn (part : SetPart) (rest : List (Char × Bool)) : Except Text (List SetPart) :=
      (setPartsUpTo rest fuel).map (part :: ·)
    let plain : Except Text (List SetPart) :=
      match marks with
      | [] => .ok []
      | (low, _) :: ('-', false) :: (high, _) :: rest =>
        if high < low then
          .error ("range-endpoints of '".toList ++ [low, '-', high]
            ++ "' are in reverse collating sequence order".toList)
        else goOn (.chars (charsBetween low.toNat high.toNat)) rest
      | (c, _) :: rest => goOn (.chars [c]) rest
    match marks with
    | ('[', false) :: (':', false) :: rest =>
      match bracketed? ':' rest with
      | none => plain
      | some (name, rest) =>
        match classChars? (String.ofList name) with
        | some chars => goOn (.chars chars) rest
        | none => .error ("invalid character class ".toList ++ quotedWord name)
    | ('[', false) :: ('=', false) :: rest =>
      match bracketed? '=' rest with
      | some ([c], rest) => goOn (.chars [c]) rest
      | some (chars, _) =>
        .error (chars ++ ": equivalence class operand must be a single character".toList)
      | none => plain
    | ('[', false) :: (c, _) :: ('*', false) :: rest =>
      let digits := (rest.takeWhile fun (c, _) ↦ c.isDigit).map Prod.fst
      match rest.drop digits.length with
      | (']', false) :: rest =>
        let base := if digits.head? == some '0' then 8 else 10
        goOn (.repeated c ((Text.toNat? base digits).getD 0)) rest
      | _ => plain
    | _ => plain

/-- The parts of a set as it is written. -/
def setParts (word : Text) : Except Text (List SetPart) :=
  let marks := setMarks word
  setPartsUpTo marks marks.length

/-- The characters of a set. A part that is repeated as often as it takes fills it up to a length.
-/
def setChars (length : Nat) (parts : List SetPart) : Text :=
  let own := (parts.map fun
    | .chars chars => chars.length
    | .repeated _ count => count).foldl (· + ·) 0
  parts.flatMap fun
    | .chars chars => chars
    | .repeated c 0 => List.replicate (length - own) c
    | .repeated c count => List.replicate count c

/-! ### Replacing characters -/

/-- What is done with characters. -/
structure Replacing where
  /-- What becomes of each character, by its number. -/
  table : Array (Option Char)
  /-- The characters that are not repeated. -/
  joined : Text
  deriving Inhabited

/-- Replaces the characters of a text behind a character. -/
def Replacing.apply (replacing : Replacing) (last : Option Char) (text : Text) :
    Option Char × Text :=
  let (last, kept) := text.foldl (fun (last, kept) c ↦
    match (replacing.table[c.toNat]?).getD (some c) with
    | none => (last, kept)
    | some new =>
      if last == some new && replacing.joined.contains new then (last, kept)
      else (some new, new :: kept)) (last, ([] : Text))
  (last, kept.reverse)

/-- What is done with characters by one or two sets. -/
def replacingOf (choices : Choices) (complement : Bool) (first : Text) (second : Option Text) :
    Except Text Replacing := do
  let parts ← setParts first
  let given := setChars 0 parts
  let chars := if complement then (charsBetween 0 255).filter fun c ↦ !given.contains c else given
  let other ← (second.mapM setParts)
  let targets := (other.map (setChars chars.length)).getD []
  let keep : Array (Option Char) := ((charsBetween 0 255).map some).toArray
  if choices.has "delete" then
    return ⟨chars.foldl (fun table c ↦ table.setIfInBounds c.toNat none) keep, targets⟩
  match other with
  | none => return ⟨keep, chars⟩
  | some _ =>
    if targets.isEmpty && !choices.has "truncate-set1" then
      .error "when not truncating set1, string2 must be non-empty".toList
    let chars := if choices.has "truncate-set1" then chars.take targets.length else chars
    let last := targets.getLastD ' '
    let pairs := chars.zip (targets ++ List.replicate (chars.length - targets.length) last)
    let table := pairs.foldl (fun table (c, new) ↦ table.setIfInBounds c.toNat (some new)) keep
    return ⟨table, if choices.has "squeeze-repeats" then targets else []⟩

/-- Replaces, removes or joins characters. -/
def tr (words : List Text) : Work Nat := do
  let choices ← Work.choices
    [.flag "cC" "complement", .flag "d" "delete", .flag "s" "squeeze-repeats",
      .flag "t" "truncate-set1"] true words 1
  let delete := choices.has "delete"
  let squeeze := choices.has "squeeze-repeats"
  let complement := choices.has "complement"
  let explain {α : Type} (message : Text) (line : String) : Work α := do
    Work.complain message
    Work.report (line.toList ++ ['\n'])
    Work.suggestHelp
    Work.stop 1
  let (first, second) ← match choices.operands with
    | [] => Work.misused "missing operand".toList 1
    | [first] =>
      if delete && squeeze then
        explain ("missing operand after ".toList ++ quotedWord first)
          "Two strings must be given when both deleting and squeezing repeats."
      else if delete || squeeze then pure (first, none)
      else
        explain ("missing operand after ".toList ++ quotedWord first)
          "Two strings must be given when translating."
    | [first, second] =>
      if delete && !squeeze then
        explain ("extra operand ".toList ++ quotedWord second)
          "Only one string may be given when deleting without squeezing repeats."
      else pure (first, some second)
    | _ => do
      Work.atMost choices 2 1
      pure ([], none)
  match replacingOf choices complement first second with
  | .error message => Work.fail message 1
  | .ok replacing =>
    Work.loop (fun last ↦ do
      match ← Work.read 0 with
      | .text text =>
        let (last, replaced) := replacing.apply last text
        Work.put replaced
        return .inl last
      | .finish => return .inr 0
      | .refused error => Work.fail ("read error: ".toList ++ error.wording) 1) none

/-! ### Showing bytes -/

/-- How bytes are shown. -/
inductive DumpKind where
  /-- As numbers of some size, in a base; those in base ten may have signs. -/
  | number (size base : Nat) (signed : Bool)
  /-- As characters. -/
  | char
  /-- As names of characters. -/
  | named
  deriving Repr, DecidableEq, Inhabited

/-- The names of the first characters. -/
def controlNames : List String :=
  ["nul", "soh", "stx", "etx", "eot", "enq", "ack", "bel", "bs", "ht", "nl", "vt", "ff", "cr", "so",
    "si", "dle", "dc1", "dc2", "dc3", "dc4", "nak", "syn", "etb", "can", "em", "sub", "esc", "fs",
    "gs", "rs", "us", "sp"]

namespace DumpKind

/-- How many bytes are shown as one. -/
def size : DumpKind → Nat
  | number size _ _ => size
  | char | named => 1

/-- How wide a value is. -/
def width : DumpKind → Nat
  | number size base signed =>
    let greatest := Nat.pow 256 size - 1
    if signed then (Text.ofNat (greatest / 2 + 1)).length + 1
    else (Nat.toDigits base greatest).length
  | char | named => 3

/-- Some bytes as they are shown. -/
def shown (kind : DumpKind) (bytes : Text) : Text :=
  match kind with
  | number size base signed =>
    let value := bytes.foldr (fun c n ↦ n * 256 + c.toNat) 0
    let limit := Nat.pow 256 size
    if signed then
      if value < limit / 2 then Text.ofNat value else '-' :: Text.ofNat (limit - value)
    else
      let digits := Nat.toDigits base value
      if base = 10 then digits else List.replicate (kind.width - digits.length) '0' ++ digits
  | named =>
    let n := (bytes.headD ' ').toNat % 128
    match controlNames[n]? with
    | some name => name.toList
    | none => if n = 127 then "del".toList else [Char.ofNat n]
  | char =>
    let c := bytes.headD ' '
    match c.toNat with
    | 0 => ['\\', '0']
    | 7 => ['\\', 'a']
    | 8 => ['\\', 'b']
    | 9 => ['\\', 't']
    | 10 => ['\\', 'n']
    | 11 => ['\\', 'v']
    | 12 => ['\\', 'f']
    | 13 => ['\\', 'r']
    | n =>
      if 32 ≤ n && n < 127 then [c]
      else
        let digits := Nat.toDigits 8 n
        List.replicate (3 - digits.length) '0' ++ digits

/-- The bytes of a line as they are shown. The fuel is their number. -/
def lineUpTo (kind : DumpKind) (bytes : Text) : Nat → Text
  | 0 => []
  | fuel + 1 =>
    if bytes.isEmpty then []
    else
      let value := bytes.take kind.size
      let text := kind.shown (value ++ List.replicate (kind.size - value.length) (Char.ofNat 0))
      ' ' :: (List.replicate (kind.width - text.length) ' ' ++ text
        ++ lineUpTo kind (bytes.drop kind.size) fuel)

/-- The kinds that a word asks for. The fuel is its length. -/
def ofTextUpTo (word : Text) : Nat → Option (List DumpKind)
  | 0 => some []
  | fuel + 1 =>
    match word with
    | [] => some []
    | 'a' :: rest => (ofTextUpTo rest fuel).map (named :: ·)
    | 'c' :: rest => (ofTextUpTo rest fuel).map (char :: ·)
    | c :: rest => do
      let (base, signed) ← match c with
        | 'd' => some (10, true)
        | 'u' => some (10, false)
        | 'o' => some (8, false)
        | 'x' => some (16, false)
        | _ => none
      let digits := rest.takeWhile Char.isDigit
      let (size, rest) ← match rest with
        | 'C' :: rest => some (1, rest)
        | 'S' :: rest => some (2, rest)
        | 'I' :: rest => some (4, rest)
        | 'L' :: rest => some (8, rest)
        | _ =>
          if digits.isEmpty then some (4, rest)
          else (Text.toNat? 10 digits).map fun n ↦ (n, rest.drop digits.length)
      if [1, 2, 4, 8].contains size then
        (ofTextUpTo rest fuel).map (number size base signed :: ·)
      else none

end DumpKind

/-- How a text is shown by its bytes. -/
structure DumpStyle where
  /-- The base of the addresses in front of the lines, if they are shown. -/
  base : Option Nat
  kinds : List DumpKind
  perLine : Nat
  /-- Whether lines are shown that are the same as the one before. -/
  showsAll : Bool
  deriving Repr, DecidableEq, Inhabited

namespace DumpStyle

/-- An address in front of a line. -/
def address (style : DumpStyle) (position : Nat) : Text :=
  match style.base with
  | none => []
  | some base =>
    let digits := Nat.toDigits base position
    List.replicate ((if base = 16 then 6 else 7) - digits.length) '0' ++ digits

/-- The lines that show some bytes behind a position. The fuel is their number. -/
def linesUpTo (style : DumpStyle) (position : Nat) (last : Option Text) (starred : Bool)
    (bytes : Text) : Nat → List Text
  | 0 => []
  | fuel + 1 =>
    if bytes.isEmpty then (if style.base.isSome then [style.address position] else [])
    else
      let piece := bytes.take style.perLine
      let rest := bytes.drop style.perLine
      let next := position + piece.length
      if !style.showsAll && last == some piece && piece.length = style.perLine then
        (if starred then [] else [['*']]) ++ linesUpTo style next last true rest fuel
      else
        let shown := style.kinds.zipIdx.map fun (kind, index) ↦
          let front := style.address position
          (if index = 0 then front else List.replicate front.length ' ')
            ++ kind.lineUpTo piece piece.length
        shown ++ linesUpTo style next (some piece) false rest fuel

end DumpStyle

/-- Shows the bytes of its inputs. -/
def od (words : List Text) : Work Nat := do
  let choices ← Work.choices
    ([.value "A" "address-radix", .value "t" "format", .value "N" "read-bytes",
      .value "j" "skip-bytes", .maybe "w" "width", .flag "v" "output-duplicates"]
      ++ Switch.plain "abcdoxsil") false words 1
  let base ← match choices.last? "address-radix" with
    | none | some ['o'] => pure (some 8)
    | some ['x'] => pure (some 16)
    | some ['d'] => pure (some 10)
    | some ['n'] => pure none
    | some word => Work.fail ("invalid output address radix '".toList ++ word
      ++ "'; it must be one character from [doxn]".toList) 1
  let short : List (String × DumpKind) :=
    [("a", .named), ("b", .number 1 8 false), ("c", .char), ("d", .number 2 10 false),
      ("o", .number 2 8 false), ("x", .number 2 16 false), ("s", .number 2 10 true),
      ("i", .number 4 10 true), ("l", .number 8 10 true)]
  let kinds ← Work.fold (fun kinds (key, value) ↦
    if key == "format" then
      match DumpKind.ofTextUpTo value (value.length + 1) with
      | some more => pure (kinds ++ more)
      | none =>
        let letter := value.find? fun c ↦ !("acduoxCSIL".toList.contains c || c.isDigit)
        Work.fail ((match letter with
          | some c => "invalid character '".toList ++ c :: "' in type string ".toList
          | none => "invalid type string ".toList) ++ quotedWord value) 1
    else pure (kinds ++ (short.lookup key).toList)) ([] : List DumpKind) choices.given
  let number (key : String) : Option Nat := (choices.last? key).bind (Text.toNat? 10)
  let (texts, all) ← Work.readInputs choices.operands
  let skipped := (number "skip-bytes").getD 0
  let bytes := texts.flatten.drop skipped
  let bytes := match number "read-bytes" with
    | some count => bytes.take count
    | none => bytes
  let style : DumpStyle :=
    { base := base
      kinds := if kinds.isEmpty then [.number 2 8 false] else kinds
      perLine := max 1 ((number "width").getD (if choices.has "width" then 32 else 16))
      showsAll := choices.has "output-duplicates" }
  if all || !bytes.isEmpty then
    Work.put (unlines (style.linesUpTo skipped none false bytes (bytes.length + 1)))
  return if all then 0 else 1

end Dialogue.Tool
