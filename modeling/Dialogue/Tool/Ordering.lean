import Dialogue.Tool.Input
import Dialogue.Tool.Switches

/-!
# Tools for the order of lines

Tools that put lines in order, or compare lines that are in order: `sort`, `uniq`, `comm`. Lines are
compared by keys, which are parts of them, one after the other, and by all of their bytes at last.
-/

set_option autoImplicit false
set_option relaxedAutoImplicit false

namespace Dialogue.Tool

open Dialogue.Machine

/-! ### Comparing -/

/-- How two values follow each other by an order. -/
def compareBy {α : Type} (less : α → α → Bool) (a b : α) : Ordering :=
  if less a b then .lt else if less b a then .gt else .eq

/-- How two texts follow each other by their bytes. -/
def compareTexts (a b : Text) : Ordering :=
  compareBy (fun a b ↦ decide (a < b)) a b

/-- How the parts of a key are compared. -/
structure KeyStyle where
  numeric : Bool
  /-- Whether a letter behind a number multiplies it. -/
  humane : Bool
  months : Bool
  versions : Bool
  ignoresCase : Bool
  /-- Whether only blanks, letters and digits count. -/
  inWords : Bool
  printableOnly : Bool
  skipsBlanks : Bool
  reversed : Bool
  deriving Repr, DecidableEq, Inhabited

namespace KeyStyle

/-- The style without any wishes. -/
def bare : KeyStyle := ⟨false, false, false, false, false, false, false, false, false⟩

/-- The style with the wish that a letter stands for. -/
def withLetter? (style : KeyStyle) : Char → Option KeyStyle
  | 'n' | 'g' => some { style with numeric := true }
  | 'h' => some { style with humane := true }
  | 'M' => some { style with months := true }
  | 'V' => some { style with versions := true }
  | 'f' => some { style with ignoresCase := true }
  | 'd' => some { style with inWords := true }
  | 'i' => some { style with printableOnly := true }
  | 'b' => some { style with skipsBlanks := true }
  | 'r' => some { style with reversed := true }
  | _ => none

end KeyStyle

/-- Whether a character is a blank within a line. -/
def isInnerBlank (c : Char) : Bool := c == ' ' || c == '\t'

/-- The number that a text begins with: its sign, its whole part, and its decimals without the zeros
at their end; what follows it comes last. -/
def leadingNumber (text : Text) : Bool × Nat × Text × Text :=
  let text := text.dropWhile fun c ↦ isInnerBlank c || c == '\n'
  let (negative, text) := match text with
    | '-' :: rest => (true, rest)
    | _ => (false, text)
  let digits := text.takeWhile Char.isDigit
  let rest := text.drop digits.length
  let decimals := match rest with
    | '.' :: more => more.takeWhile Char.isDigit
    | _ => []
  let rest := if rest.head? == some '.' then rest.drop (decimals.length + 1) else rest
  let whole := (Text.toNat? 10 digits).getD 0
  let decimals := Text.trimEndWhile (· == '0') decimals
  (negative && !(whole = 0 && decimals.isEmpty), whole, decimals, rest)

/-- How the numbers follow each other that two texts begin with. -/
def compareNumbers (humane : Bool) (a b : Text) : Ordering :=
  let (aNegative, aWhole, aDecimals, aRest) := leadingNumber a
  let (bNegative, bWhole, bDecimals, bRest) := leadingNumber b
  let rank (rest : Text) : Nat :=
    if !humane then 0
    else
      match rest with
      | [] => 0
      | c :: _ => (("KMGTPEZYRQ".toList.findIdx? (· == c.toUpper)).map (· + 1)).getD 0
  let isZero (whole : Nat) (decimals : Text) : Bool := whole = 0 && decimals.isEmpty
  let rankOf (whole : Nat) (decimals rest : Text) : Nat :=
    if isZero whole decimals then 0 else rank rest
  let sizes := (compareBy (fun a b ↦ decide (a < b)) (rankOf aWhole aDecimals aRest)
      (rankOf bWhole bDecimals bRest)).then
    ((compareBy (fun a b ↦ decide (a < b)) aWhole bWhole).then (compareTexts aDecimals bDecimals))
  match aNegative, bNegative with
  | false, false => sizes
  | true, true => sizes.swap
  | true, false => .lt
  | false, true => .gt

/-- The number of the month that a text begins with; zero if it begins with none. -/
def monthOf (text : Text) : Nat :=
  let start := ((text.dropWhile isInnerBlank).take 3).map Char.toUpper
  match ["JAN", "FEB", "MAR", "APR", "MAY", "JUN", "JUL", "AUG", "SEP", "OCT", "NOV",
      "DEC"].findIdx? (fun month ↦ month.toList == start) with
  | some index => index + 1
  | none => 0

/-- How two texts follow each other if runs of digits in them count as numbers. The fuel is the
length of the texts. -/
def compareVersionsUpTo (a b : Text) : Nat → Ordering
  | 0 => compareTexts a b
  | fuel + 1 =>
    let plain (text : Text) : Text := text.takeWhile fun c ↦ !c.isDigit
    let aPlain := plain a
    let bPlain := plain b
    if aPlain != bPlain then compareTexts aPlain bPlain
    else
      let aRest := a.drop aPlain.length
      let bRest := b.drop bPlain.length
      if aRest.isEmpty || bRest.isEmpty then compareTexts aRest bRest
      else
        let aDigits := aRest.takeWhile Char.isDigit
        let bDigits := bRest.takeWhile Char.isDigit
        (compareBy (fun a b ↦ decide (a < b)) ((Text.toNat? 10 aDigits).getD 0)
          ((Text.toNat? 10 bDigits).getD 0)).then
          (compareVersionsUpTo (aRest.drop aDigits.length) (bRest.drop bDigits.length) fuel)

/-- How two parts of lines follow each other. -/
def KeyStyle.compare (style : KeyStyle) (a b : Text) : Ordering :=
  let reduced (text : Text) : Text :=
    let text := if style.inWords then
        text.filter fun c ↦ isInnerBlank c || c.isAlphanum
      else if style.printableOnly then text.filter fun c ↦ 32 ≤ c.toNat && c.toNat < 127
      else text
    if style.ignoresCase then text.map Char.toUpper else text
  let result := if style.numeric then compareNumbers false a b
    else if style.humane then compareNumbers true a b
    else if style.months then compareBy (fun a b ↦ decide (a < b)) (monthOf a) (monthOf b)
    else if style.versions then compareVersionsUpTo a b (a.length + b.length)
    else compareTexts (reduced a) (reduced b)
  if style.reversed then result.swap else result

/-! ### Keys -/

/-- An end of a key: a field, counted from zero, and a number of characters within it. -/
structure KeyPlace where
  field : Nat
  chars : Nat
  skipsBlanks : Bool
  deriving Repr, DecidableEq, Inhabited

/-- A part of a line by which it is compared. -/
structure SortKey where
  first : KeyPlace
  /-- Where the part ends; zero characters stand for the end of the field. -/
  last : Option KeyPlace
  /-- How it is compared, if not like everything else. -/
  style : Option KeyStyle
  deriving Repr, DecidableEq, Inhabited

/-- What follows some fields of a text; the separator in front of the next one is dropped if that is
wanted. -/
def skipFields (separator : Option Char) (dropsLast : Bool) (text : Text) : Nat → Text
  | 0 => text
  | count + 1 =>
    match separator with
    | none =>
      skipFields separator dropsLast
        ((text.dropWhile isInnerBlank).dropWhile fun c ↦ !isInnerBlank c) count
    | some c =>
      match text.dropWhile (· != c) with
      | [] => []
      | c :: rest =>
        if 0 < count || dropsLast then skipFields separator dropsLast rest count else c :: rest

/-- The part of a line that a key stands for. -/
def SortKey.part (key : SortKey) (separator : Option Char) (line : Text) : Text :=
  let start := skipFields separator true line key.first.field
  let start := if key.first.skipsBlanks then start.dropWhile isInnerBlank else start
  let start := start.drop key.first.chars
  match key.last with
  | none => start
  | some last =>
    let behind := if last.chars = 0 then skipFields separator false line (last.field + 1)
      else
        let field := skipFields separator true line last.field
        (if last.skipsBlanks then field.dropWhile isInnerBlank else field).drop last.chars
    start.take (start.length - behind.length)

/-- Reads an end of a key: a field and characters, and the letters behind them. -/
def keyPlace? (isLast : Bool) (word : Text) : Option (KeyPlace × Text × Text) := do
  let digits := word.takeWhile Char.isDigit
  let field ← Text.toNat? 10 digits
  if field = 0 then none
  let rest := word.drop digits.length
  let (chars, rest) ← match rest with
    | '.' :: more =>
      let digits := more.takeWhile Char.isDigit
      (Text.toNat? 10 digits).map fun n ↦ (n, more.drop digits.length)
    | _ => some (if isLast then 0 else 1, rest)
  if !isLast && chars = 0 then none
  let letters := rest.takeWhile (· != ',')
  let place : KeyPlace :=
    ⟨field - 1, if isLast then chars else chars - 1, letters.contains 'b'⟩
  return (place, letters, rest.drop letters.length)

/-- Reads a key. -/
def sortKey? (word : Text) : Option SortKey := do
  let (first, letters, rest) ← keyPlace? false word
  let (last, more) ← match rest with
    | [] => some (none, [])
    | ',' :: rest => do
      let (last, letters, rest) ← keyPlace? true rest
      if rest.isEmpty then some (some last, letters) else none
    | _ => none
  let wishes := letters ++ more
  let style ← wishes.foldlM KeyStyle.withLetter? KeyStyle.bare
  return ⟨first, last, if wishes.isEmpty then none else some style⟩

/-- How lines are sorted. -/
structure SortStyle where
  keys : List SortKey
  separator : Option Char
  style : KeyStyle
  /-- Whether lines that are the same by their keys are compared by all of their bytes. -/
  comparesAll : Bool
  deriving Repr, DecidableEq, Inhabited

/-- How two lines follow each other. -/
def SortStyle.compare (sort : SortStyle) (a b : Text) : Ordering :=
  let byKeys := if sort.keys.isEmpty then
      let skip (text : Text) : Text :=
        if sort.style.skipsBlanks then text.dropWhile isInnerBlank else text
      sort.style.compare (skip a) (skip b)
    else sort.keys.foldl (fun result key ↦
      result.then ((key.style.getD sort.style).compare (key.part sort.separator a)
        (key.part sort.separator b))) .eq
  if sort.comparesAll && byKeys == .eq then
    if sort.style.reversed then compareTexts b a else compareTexts a b
  else byKeys

/-- The lines without those that follow an equal one. -/
def withoutRepeats (same : Text → Text → Bool) : List Text → List Text
  | [] => []
  | line :: rest => line :: go line rest
where
  /-- The lines behind a line. -/
  go (last : Text) : List Text → List Text
    | [] => []
    | line :: rest => if same last line then go last rest else line :: go line rest

/-! ### Sorting -/

/-- The switches of a sort. -/
def sortSwitches : List Switch :=
  [.flag "n" "numeric-sort", .flag "g" "general-numeric-sort", .flag "h" "human-numeric-sort",
    .flag "M" "month-sort", .flag "V" "version-sort", .flag "f" "ignore-case",
    .flag "d" "dictionary-order", .flag "i" "ignore-nonprinting", .flag "b" "ignore-leading-blanks",
    .flag "r" "reverse", .flag "u" "unique", .flag "s" "stable", .flag "c" "check", .flag "C" "",
    .flag "m" "merge", .flag "z" "zero-terminated", .value "k" "key", .value "t" "field-separator",
    .value "o" "output", .value "S" "buffer-size", .value "T" "temporary-directory",
    .value "" "parallel", .flag "R" "random-sort", .value "" "random-source", .value "" "sort"]

/-- The letters of the switches that say how lines are compared. -/
def styleSwitches : List (String × Char) :=
  [("numeric-sort", 'n'), ("general-numeric-sort", 'g'), ("human-numeric-sort", 'h'),
    ("month-sort", 'M'), ("version-sort", 'V'), ("ignore-case", 'f'), ("dictionary-order", 'd'),
    ("ignore-nonprinting", 'i'), ("ignore-leading-blanks", 'b'), ("reverse", 'r')]

/-- The first line that is not in order, with its number, counted from one. -/
def firstDisorder? (inOrder : Text → Text → Bool) (n : Nat) : List Text → Option (Nat × Text)
  | a :: b :: rest =>
    if inOrder a b then firstDisorder? inOrder (n + 1) (b :: rest) else some (n + 1, b)
  | _ => none

/-- Puts lines in order. -/
def sort (words : List Text) : Work Nat := do
  let choices ← Work.choices sortSwitches false words 2
  let style := styleSwitches.foldl (fun style (key, letter) ↦
    if choices.has key then (style.withLetter? letter).getD style else style) KeyStyle.bare
  let keys ← match (choices.all "key").mapM sortKey? with
    | some keys => pure keys
    | none =>
      let word := ((choices.all "key").find? fun word ↦ (sortKey? word).isNone).getD []
      let digits := word.takeWhile Char.isDigit
      Work.fail ((if digits.isEmpty then "invalid number at field start: invalid count at start of "
        else if digits.all (· == '0') then "field number is zero: invalid field specification "
        else "stray character in field spec: invalid field specification ").toList
          ++ quotedWord word) 2
  let separator ← match choices.last? "field-separator" with
    | none => pure none
    | some [c] => pure (some c)
    | some ['\\', '0'] => pure (some (Char.ofNat 0))
    | some word => Work.fail ("multi-character tab ".toList ++ quotedWord word) 2
  let unique := choices.has "unique"
  let order : SortStyle := ⟨keys, separator, style, !(unique || choices.has "stable")⟩
  let names := inputsOf choices.operands
  let texts ← Work.fold (fun texts name ↦ do
    match ← Work.readInput name with
    | .ok text => return texts ++ [text]
    | .error .isADirectory =>
      Work.fail ("read failed: ".toList ++ shownName name ++ ": ".toList
        ++ FileError.isADirectory.wording) 2
    | .error error =>
      Work.fail ("cannot read: ".toList ++ shownName name ++ ": ".toList ++ error.wording) 2)
    ([] : List Text) names
  let lines := texts.flatMap lineTexts
  if choices.has "check" || choices.has "C" then
    match firstDisorder? (fun a b ↦
        if unique then order.compare a b == .lt else order.compare a b != .gt) 1 lines with
    | none => return 0
    | some (number, line) =>
      if choices.has "C" then return 1
      Work.fail (shownName (names.headD ['-']) ++ ':' :: Text.ofNat number
        ++ ": disorder: ".toList ++ line) 1
  let sorted := lines.mergeSort fun a b ↦ order.compare a b != .gt
  let kept := if unique then withoutRepeats (fun a b ↦ order.compare a b == .eq) sorted else sorted
  match choices.last? "output" with
  | none =>
    Work.put (unlines kept)
    return 0
  | some name =>
    match ← Work.openFile name .write with
    | .ok stream =>
      let _ ← Work.writeTo stream (unlines kept)
      return 0
    | .error error =>
      Work.fail ("open failed: ".toList ++ shownName name ++ ": ".toList ++ error.wording) 2

/-! ### Repeated lines -/

/-- A line that was read, and how often it came. -/
structure Repeated where
  line : Text
  count : Nat
  deriving Repr, DecidableEq, Inhabited

/-- Prints lines that follow each other only once, or only those that do, or do not. -/
def uniq (words : List Text) : Work Nat := do
  let choices ← Work.choices
    [.flag "c" "count", .flag "d" "repeated", .flag "u" "unique", .flag "i" "ignore-case",
      .flag "D" "all-repeated", .value "f" "skip-fields", .value "s" "skip-chars",
      .value "w" "check-chars", .flag "z" "zero-terminated"] false words 1
  let number (key meaning : String) : Work Nat :=
    Work.number choices key 0 (fun word ↦ word ++ ": invalid number of ".toList ++ meaning.toList) 1
  let fields ← number "skip-fields" "fields to skip"
  let skipped ← number "skip-chars" "bytes to skip"
  let checked ← number "check-chars" "bytes to compare"
  Work.atMost choices 2 1
  let key (line : Text) : Text :=
    let rest := (skipFields none true line fields).drop skipped
    let rest := if choices.has "check-chars" then rest.take checked else rest
    if choices.has "ignore-case" then rest.map Char.toLower else rest
  let show' (group : Repeated) : Work Unit :=
    let wanted := if group.count = 1 then !choices.has "repeated" && !choices.has "all-repeated"
      else !choices.has "unique"
    let digits := Text.ofNat group.count
    let front := if choices.has "count" then
        List.replicate (7 - digits.length) ' ' ++ digits ++ [' ']
      else []
    let times := if choices.has "all-repeated" then group.count else 1
    if wanted then Work.put (List.replicate times (front ++ group.line ++ ['\n'])).flatten
    else pure ()
  let name := choices.operands.headD ['-']
  match ← Work.openInput name with
  | .error error => Work.fail (shownName name ++ ": ".toList ++ error.wording) 1
  | .ok stream =>
    let (last, _) ← Work.eachLine stream (fun group line ↦ do
      match group with
      | none => return .inl (some (⟨line.text, 1⟩ : Repeated))
      | some group =>
        if key group.line == key line.text then
          return .inl (some { group with count := group.count + 1 })
        else
          show' group
          return .inl (some ⟨line.text, 1⟩)) none
    match last with
    | some group => show' group
    | none => pure ()
    return 0

/-! ### Common lines -/

/-- The lines of two ordered lists, each with the column in which it is shown: the first for those
of the first list only, the second for those of the second only, the third for common ones. The fuel
is the number of lines. -/
def commonUpTo (a b : List Text) : Nat → List (Nat × Text)
  | 0 => []
  | fuel + 1 =>
    match a, b with
    | [], b => b.map fun line ↦ (1, line)
    | a, [] => a.map fun line ↦ (0, line)
    | x :: a, y :: b =>
      match compareTexts x y with
      | .lt => (0, x) :: commonUpTo a (y :: b) fuel
      | .gt => (1, y) :: commonUpTo (x :: a) b fuel
      | .eq => (2, x) :: commonUpTo a b fuel

/-- Compares the lines of two files that are in order. -/
def comm (words : List Text) : Work Nat := do
  let choices ← Work.choices
    (Switch.plain "123" ++ [.value "" "output-delimiter", .flag "" "check-order",
      .flag "" "nocheck-order", .flag "" "total"]) false words 1
  match choices.operands with
  | [first, second] =>
    let texts ← Work.fold (fun texts name ↦ do
      match ← Work.readInput name with
      | .ok text => return texts ++ [lineTexts text]
      | .error error => Work.fail (shownName name ++ ": ".toList ++ error.wording) 1)
      ([] : List (List Text)) [first, second]
    let a := texts.headD []
    let b := (texts.drop 1).headD []
    let hidden (column : Nat) : Bool := choices.has (toString (column + 1))
    let between := (choices.last? "output-delimiter").getD ['\t']
    for (column, line) in commonUpTo a b (a.length + b.length + 1) do
      if !hidden column then
        let before := ((List.range column).filter fun other ↦ !hidden other).length
        Work.putLine ((List.replicate before between).flatten ++ line)
    return 0
  | [] => Work.misused "missing operand".toList 1
  | [only] => Work.misused ("missing operand after ".toList ++ quotedWord only) 1
  | _ => do
    Work.atMost choices 2 1
    return 1

end Dialogue.Tool
