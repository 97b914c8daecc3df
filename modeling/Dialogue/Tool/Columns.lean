import Dialogue.Text.Blank
import Dialogue.Text.Bytes
import Dialogue.Tool.Passing

/-!
# Tools for the parts of lines

Tools that cut parts out of lines, put lines side by side, break or number them, or count what a
text holds: `cut`, `paste`, `fold`, `nl`, `wc`.
-/

set_option autoImplicit false
set_option relaxedAutoImplicit false

namespace Dialogue.Tool

open Dialogue.Machine

/-! ### Cutting -/

/-- A range of positions, counted from one; the last one may be open. -/
structure Span where
  first : Nat
  last : Option Nat
  deriving Repr, DecidableEq, Inhabited

/-- Whether a position is in one of some ranges. -/
def isInSpans (spans : List Span) (position : Nat) : Bool :=
  spans.any fun span ↦ span.first ≤ position && span.last.all (position ≤ ·)

/-- The range that a word stands for, or what is wrong with it. -/
def spanOf (what word : Text) : Except Text Span :=
  let low := word.takeWhile (· != '-')
  let wrong : Text := if what == "field".toList then
      "invalid field value ".toList ++ quotedWord word
    else "invalid byte/character position ".toList ++ quotedWord word
  let number (digits : Text) : Except Text Nat :=
    match Text.toNat? 10 digits with
    | some 0 =>
      .error (if what == "field".toList then "fields are numbered from 1".toList
        else "byte/character positions are numbered from 1".toList)
    | some n => if digits.all Char.isDigit then .ok n else .error wrong
    | none => .error wrong
  match word.drop low.length with
  | [] => (number low).map fun n ↦ ⟨n, some n⟩
  | _ :: high => do
    if low.isEmpty && high.isEmpty then .error "invalid range with no endpoint: -".toList
    let first ← if low.isEmpty then pure 1 else number low
    if high.isEmpty then return ⟨first, none⟩
    let last ← number high
    if last < first then .error "invalid decreasing range".toList
    else return ⟨first, some last⟩

/-- The elements of a list at the positions that are wanted. -/
def atSpans {α : Type} (wanted : Nat → Bool) (values : List α) : List α :=
  (values.zipIdx.filter fun (_, index) ↦ wanted (index + 1)).map Prod.fst

/-- Prints parts of each line. -/
def cut (words : List Text) : Work Nat := do
  let choices ← Work.choices
    [.value "b" "bytes", .value "c" "characters", .value "f" "fields", .value "d" "delimiter",
      .flag "s" "only-delimited", .flag "" "complement", .value "" "output-delimiter",
      .flag "n" "", .flag "z" "zero-terminated"] false words 1
  let list ← match choices.given.find? fun (key, _) ↦ ["bytes", "characters", "fields"].contains key
    with
    | some (_, list) => pure list
    | none => Work.misused "you must specify a list of bytes, characters, or fields".toList 1
  let inFields := choices.has "fields"
  let what : Text := if inFields then "field".toList else "byte".toList
  let listed := Text.splitOn ',' (list.map fun c ↦ if c == ' ' then ',' else c)
  let spans ← match listed.mapM (spanOf what) with
    | .ok spans => pure spans
    | .error message => Work.misused message 1
  let delimiter ← match choices.last? "delimiter" with
    | none => pure '\t'
    | some [c] => pure c
    | some _ => Work.misused "the delimiter must be a single character".toList 1
  if !inFields && choices.has "delimiter" then
    Work.misused "an input delimiter may be specified only when operating on fields".toList 1
  let between := (choices.last? "output-delimiter").getD [delimiter]
  let wanted (position : Nat) : Bool := isInSpans spans position != choices.has "complement"
  let cutLine (line : Text) : Option Text :=
    if !inFields then
      match choices.last? "output-delimiter" with
      | none => some (atSpans wanted line)
      | some between =>
        let ordered := spans.mergeSort fun a b ↦ a.first ≤ b.first
        some (Text.joinWith between ((ordered.map fun span ↦
          atSpans (isInSpans [span]) line).filter fun part ↦ !part.isEmpty))
    else if !line.contains delimiter then
      if choices.has "only-delimited" then none else some line
    else some (Text.joinWith between (atSpans wanted (Text.splitOn delimiter line)))
  Work.fold (fun status name ↦ do
    match ← Work.openInput name with
    | .error error =>
      Work.complain (shownName name ++ ": ".toList ++ error.wording)
      return 1
    | .ok stream =>
      let (_, error) ← Work.eachLine stream (fun () line ↦ do
        match cutLine line.text with
        | some part => Work.putLine part
        | none => pure ()
        return .inl ()) ()
      Work.closeInput name stream
      match error with
      | none => return status
      | some error =>
        Work.complain (shownName name ++ ": ".toList ++ error.wording)
        return 1) 0 (inputsOf choices.operands)

/-! ### Side by side -/

/-- The separators that a word stands for; the empty text stands for none. -/
def separatorsOf (word : Text) : List Text :=
  match word with
  | [] => []
  | '\\' :: 'n' :: rest => ['\n'] :: separatorsOf rest
  | '\\' :: 't' :: rest => ['\t'] :: separatorsOf rest
  | '\\' :: '\\' :: rest => ['\\'] :: separatorsOf rest
  | '\\' :: '0' :: rest => [] :: separatorsOf rest
  | c :: rest => [c] :: separatorsOf rest

/-- Texts joined with separators that take turns. -/
def joinInTurn (separators : List Text) (texts : List Text) : Text :=
  let count := separators.length
  texts.zipIdx.flatMap fun (text, index) ↦
    if index = 0 then text else (separators[(index - 1) % count]?).getD [] ++ text

/-- The next row of lines from sources, some of which are the same. -/
def nextRow (order : List Nat) (sources : List (List Text)) :
    List (Option Text) × List (List Text) :=
  order.foldl (fun (row, sources) index ↦
    match sources[index]? with
    | some (line :: rest) => (row ++ [some line], sources.set index rest)
    | _ => (row ++ [none], sources)) ([], sources)

/-- The rows of lines from sources. The fuel is the number of lines. -/
def rowsUpTo (order : List Nat) (sources : List (List Text)) : Nat → List (List Text)
  | 0 => []
  | fuel + 1 =>
    let (row, sources) := nextRow order sources
    if row.all Option.isNone then []
    else row.map (·.getD []) :: rowsUpTo order sources fuel

/-- Puts the lines of files side by side. -/
def paste (words : List Text) : Work Nat := do
  let choices ← Work.choices
    [.value "d" "delimiters", .flag "s" "serial", .flag "z" "zero-terminated"] false words 1
  let separators := match choices.last? "delimiters" with
    | some word => if word.isEmpty then [[]] else separatorsOf word
    | none => [['\t']]
  let names := inputsOf choices.operands
  let (sources, order, status) ← Work.fold (fun (sources, order, status) name ↦ do
    match if name == ['-'] then sources.findIdx? fun (other, _) ↦ other == ['-'] else none with
    | some index => return (sources, order ++ [index], status)
    | none =>
      match ← Work.readInput name with
      | .ok text =>
        return (sources ++ [(name, lineTexts text)], order ++ [sources.length], status)
      | .error error =>
        Work.complain (shownName name ++ ": ".toList ++ error.wording)
        return (sources, order, 1)) (([] : List (Text × List Text)), ([] : List Nat), 0) names
  let lines := sources.map Prod.snd
  if choices.has "serial" then
    for source in order.filterMap fun index ↦ lines[index]? do
      Work.putLine (joinInTurn separators source)
    return status
  if status ≠ 0 then return status
  let count := lines.foldl (fun n source ↦ n + source.length) 1
  for row in rowsUpTo order lines count do
    Work.putLine (joinInTurn separators row)
  return status

/-! ### Breaking and numbering -/

/-- How wide a line is behind a character. -/
def widthBehind (inBytes : Bool) (width : Nat) (c : Char) : Nat :=
  if inBytes then width + 1
  else if c == '\x08' then width - 1
  else if c == '\r' then 0
  else if c == '\t' then (width / 8 + 1) * 8
  else width + 1

/-- A line broken into pieces that are no wider than a limit, if possible at a blank. The piece at
work is given, the last character first. -/
def foldLine (limit : Nat) (atBlanks inBytes : Bool) (piece : Text) (width : Nat) :
    Text → List Text
  | [] => [piece.reverse]
  | c :: rest =>
    let next := widthBehind inBytes width c
    if next ≤ limit || piece.isEmpty then foldLine limit atBlanks inBytes (c :: piece) next rest
    else
      let tail := piece.takeWhile fun c ↦ c != ' ' && c != '\t'
      if atBlanks && tail.length < piece.length then
        let start := tail.reverse
        let width := (start ++ [c]).foldl (widthBehind inBytes) 0
        (piece.drop tail.length).reverse
          :: foldLine limit atBlanks inBytes (c :: tail) width rest
      else
        piece.reverse :: foldLine limit atBlanks inBytes [c] (widthBehind inBytes 0 c) rest

/-- Breaks long lines. -/
def fold (words : List Text) : Work Nat := do
  let words := match words with
    | ('-' :: digits) :: rest =>
      if !digits.isEmpty && digits.all Char.isDigit then ['-', 'w'] :: digits :: rest else words
    | _ => words
  let choices ← Work.choices
    [.value "w" "width", .flag "s" "spaces", .flag "b" "bytes", .flag "c" "characters"]
    false words 1
  let limit ← match choices.last? "width" with
    | none => pure 80
    | some word =>
      match Text.toNat? 10 word with
      | some (n + 1) => pure (n + 1)
      | some 0 =>
        Work.fail ("invalid number of columns: ".toList ++ quotedWord word
          ++ ": Numerical result out of range".toList) 1
      | none => Work.fail ("invalid number of columns: ".toList ++ quotedWord word) 1
  Work.fold (fun status name ↦ do
    match ← Work.openInput name with
    | .error error =>
      Work.complain (shownName name ++ ": ".toList ++ error.wording)
      return 1
    | .ok stream =>
      let _ ← Work.eachLine stream (fun () line ↦ do
        let pieces := foldLine limit (choices.has "spaces") (choices.has "bytes") [] 0 line.text
        Work.put ({ line with text := Text.joinWith ['\n'] pieces } : Line).whole
        return .inl ()) ()
      Work.closeInput name stream
      return status) 0 (inputsOf choices.operands)

/-- A number in a field of some width, in one of the forms `ln`, `rn` and `rz`. -/
def fieldOf (form : Text) (width n : Nat) : Text :=
  let digits := Text.ofNat n
  let fill := width - digits.length
  if form == "ln".toList then digits ++ List.replicate fill ' '
  else List.replicate fill (if form == "rz".toList then '0' else ' ') ++ digits

/-- Numbers lines. -/
def nl (words : List Text) : Work Nat := do
  let choices ← Work.choices
    [.value "b" "body-numbering", .value "s" "number-separator", .value "w" "number-width",
      .value "n" "number-format", .value "v" "starting-line-number", .value "i" "line-increment",
      .value "h" "header-numbering", .value "f" "footer-numbering", .flag "p" "no-renumber"]
    false words 1
  let number (key : String) (default : Nat) (meaning : String) : Work Nat :=
    Work.number choices key default
      (fun word ↦ "invalid ".toList ++ meaning.toList ++ ": ".toList ++ quotedWord word) 1
  let width ← number "number-width" 6 "line number field width"
  if width = 0 then
    Work.fail ("invalid line number field width: ".toList ++ quotedWord ['0']
      ++ ": Numerical result out of range".toList) 1
  let first ← number "starting-line-number" 1 "starting line number"
  let step ← number "line-increment" 1 "line number increment"
  let separator := (choices.last? "number-separator").getD ['\t']
  let form := (choices.last? "number-format").getD "rn".toList
  let style := (choices.last? "body-numbering").getD ['t']
  if !(['a', 't', 'n'].contains (style.headD ' ')) then
    Work.misused ("invalid body numbering style: ".toList ++ quotedWord style) 1
  let (_, status) ← Work.fold (fun (n, status) name ↦ do
    match ← Work.openInput name with
    | .error error =>
      Work.complain (shownName name ++ ": ".toList ++ error.wording)
      return (n, 1)
    | .ok stream =>
      let (n, _) ← Work.eachLine stream (fun n line ↦ do
        let counts := style == ['a'] || (style != ['n'] && !line.text.isEmpty)
        if counts then
          Work.putLine (fieldOf form width n ++ separator ++ line.text)
          return .inl (n + step)
        else
          Work.putLine (List.replicate (width + separator.length) ' ' ++ line.text)
          return .inl n) n
      Work.closeInput name stream
      return (n, status)) (first, 0) (inputsOf choices.operands)
  return status

/-! ### Counting -/

/-- What there is in a text. -/
structure Counts where
  lines : Nat
  words : Nat
  chars : Nat
  bytes : Nat
  longest : Nat
  deriving Repr, DecidableEq, Inhabited

namespace Counts

/-- What there is in a text of bytes. -/
def ofBytes (bytes : Text) : Counts :=
  let text := Text.gather bytes
  let (lines, words, _, width, longest) := text.foldl
    (fun (lines, words, inWord, width, longest) c ↦
      let words := if !inWord && !Text.isBlank c then words + 1 else words
      if c == '\n' then (lines + 1, words, false, 0, max longest width)
      else
        let width := if c == '\t' then (width / 8 + 1) * 8 else width + 1
        (lines, words, !Text.isBlank c, width, longest)) (0, 0, false, 0, 0)
  ⟨lines, words, text.countP (!Text.isStray ·), bytes.length, max longest width⟩

/-- What there is in two texts together. -/
def add (a b : Counts) : Counts :=
  ⟨a.lines + b.lines, a.words + b.words, a.chars + b.chars, a.bytes + b.bytes,
    max a.longest b.longest⟩

/-- The counts that are asked for. -/
def chosen (choices : Choices) (counts : Counts) : List Nat :=
  let any := ["lines", "words", "chars", "bytes", "max-line-length"].any choices.has
  let some' (key : String) (default : Bool) (n : Nat) : List Nat :=
    if choices.has key || (!any && default) then [n] else []
  some' "lines" true counts.lines ++ some' "words" true counts.words
    ++ some' "chars" false counts.chars ++ some' "bytes" true counts.bytes
    ++ some' "max-line-length" false counts.longest

end Counts

/-- Counts lines, words and bytes. -/
def wc (words : List Text) : Work Nat := do
  let choices ← Work.choices
    [.flag "l" "lines", .flag "w" "words", .flag "c" "bytes", .flag "m" "chars",
      .flag "L" "max-line-length"] false words 1
  let names := choices.operands
  let (found, sizes, status) ← Work.fold (fun (found, sizes, status) name ↦ do
    if name.isEmpty then
      Work.complain "invalid zero-length file name".toList
      return (found, sizes, 1)
    match ← Work.openInput name with
    | .error error =>
      Work.complain (shownName name ++ ": ".toList ++ error.wording)
      return (found, sizes, 1)
    | .ok stream =>
      let size ← Work.fileSize? stream
      let (text, error) ← Work.readAll stream
      Work.closeInput name stream
      let found := found ++ [(name, Counts.ofBytes text)]
      match error with
      | none => return (found, sizes ++ [size], status)
      | some error =>
        Work.complain (shownName name ++ ": ".toList ++ error.wording)
        return (found, sizes ++ [size], 1))
    (([] : List (Text × Counts)), ([] : List (Option Nat)), 0) (inputsOf names)
  let total := found.foldl (fun total (_, counts) ↦ total.add counts) ⟨0, 0, 0, 0, 0⟩
  let single := (total.chosen choices).length = 1
  let width := if single && names.length ≤ 1 then 1
    else
      max (if sizes.all Option.isSome then 1 else 7)
        (Text.ofNat (sizes.foldl (fun n size ↦ n + size.getD 0) 0)).length
  let row (counts : Counts) (name : Text) : Text :=
    Text.joinWith [' '] ((counts.chosen choices).map fun n ↦
      List.replicate (width - (Text.ofNat n).length) ' ' ++ Text.ofNat n)
      ++ (if names.isEmpty then [] else ' ' :: name) ++ ['\n']
  for (name, counts) in found do
    Work.put (row counts name)
  if 1 < names.length then Work.put (row total "total".toList)
  return status

end Dialogue.Tool
