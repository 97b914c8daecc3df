import Dialogue.Shell.Format
import Dialogue.Tool.Awk.Token

/-!
# The values of programs

A value is a number or a text, and each can stand in for the other: a number is written in a format,
and a text counts as the number that it begins with. A text that was read counts as a number in
comparisons, too, if the whole of it is one.
-/

set_option autoImplicit false
set_option relaxedAutoImplicit false

namespace Dialogue.Tool.Awk

/-- A value. -/
inductive Value where
  | unset
  | number (value : Float)
  | text (text : Text)
  /-- A text that was read. -/
  | input (text : Text)
  deriving Repr, BEq, Inhabited

/-! ### Numbers -/

/-- The text of a whole number that fits into 64 bits. -/
def wholeText? (value : Float) : Option Text :=
  if value == value.floor then
    if 0.0 ≤ value && value ≤ 18446744073709551616.0 then
      some (Text.ofNat value.toUInt64.toNat)
    else if -9223372036854775808.0 ≤ value && value < 0.0 then
      some ('-' :: Text.ofNat (-value).toUInt64.toNat)
    else none
  else none

/-- The whole number that a number is cut to, within 64 bits. -/
def cutInt (value : Float) : Int :=
  if 0.0 ≤ value then value.toUInt64.toNat
  else -(min 9223372036854775807 (-value).toUInt64.toNat : Nat)

/-- The number without its part behind the point. -/
def cutFloat (value : Float) : Float :=
  if 0.0 ≤ value then value.floor else value.ceil

/-- What is left of a number after taking away another one as often as possible. -/
def remainder (a b : Float) : Float :=
  match Text.Real.ofFloat a, Text.Real.ofFloat b with
  | .finite negative above, .finite _ below =>
    if below.digits = 0 then 0.0 / 0.0
    else
      let exponent := min above.exponent below.exponent
      let units (binary : Text.Binary) : Nat :=
        binary.digits * Nat.pow 2 (binary.exponent - exponent).toNat
      (Text.Real.finite negative ⟨units above % units below, exponent⟩).toFloat
  | .finite _ _, .infinite _ => a
  | _, _ => 0.0 / 0.0

/-- The outcome of an operation. -/
def Arithmetic.apply (operation : Arithmetic) (a b : Float) : Float :=
  match operation with
  | add => a + b
  | subtract => a - b
  | multiply => a * b
  | divide => a / b
  | remainder => Awk.remainder a b
  | power => Float.pow a b

/-- The number that a text begins with; zero if there is none. -/
def numberAtStart (text : Text) : Float :=
  match Text.Real.cut? text with
  | some (value, _) => value.toFloat
  | none => 0.0

/-- Whether the whole of a text is a number, between blanks. -/
def looksNumeric (text : Text) : Bool :=
  let isBlank (c : Char) : Bool := c == ' ' || ('\t' ≤ c && c ≤ '\r')
  let body := Text.trimWhile isBlank text
  match Text.Real.cut? body with
  | some (_, []) => body.all fun c ↦ c.isDigit || "+-.eE".toList.contains c
  | _ => false

/-- A truth value. -/
def truth (b : Bool) : Value := .number (if b then 1.0 else 0.0)

namespace Value

/-- The number that a value stands for. -/
def toNumber : Value → Float
  | unset => 0.0
  | number value => value
  | text inner | input inner => numberAtStart inner

/-- Whether a value is compared as a number. -/
def isNumeric : Value → Bool
  | unset | number _ => true
  | text _ => false
  | input inner => looksNumeric inner

/-- Whether a condition with the value holds. -/
def isTrue : Value → Bool
  | unset => false
  | number value => value != 0.0
  | text inner => !inner.isEmpty
  | input inner => if looksNumeric inner then numberAtStart inner != 0.0 else !inner.isEmpty

end Value

/-! ### Formats -/

/-- A number in the layout and the way of a letter. -/
def numberIn (layout : Shell.Format.Layout) (letter : Char) (value : Float) : Text :=
  let small := letter.toLower
  let unsigned (base : Nat) : Text :=
    layout.unsigned base (Shell.Arithmetic.bits (cutInt value))
  let written :=
    if letter == 'd' || letter == 'i' then layout.signed (cutInt value)
    else if letter == 'o' then unsigned 8
    else if letter == 'u' then unsigned 10
    else if small == 'x' then unsigned 16
    else layout.real small (Text.Real.ofFloat value)
  if letter.isUpper then written.map Char.toUpper else written

/-- The text of a number that is not whole, in a format. The fuel is the length of the format. -/
def pointText (format : Text) (value : Float) : Nat → Text
  | 0 => []
  | fuel + 1 =>
    match format with
    | [] => []
    | '%' :: inside =>
      let (layout, rest, _) :=
        Shell.Format.layoutOf inside (⟨[], [], [], false, false⟩ : Shell.Format.Progress)
      match rest with
      | [] => []
      | letter :: rest => numberIn layout letter value ++ pointText rest value fuel
    | c :: rest => c :: pointText rest value fuel

/-- The text of a number: its digits if it is whole, or else what a format makes of it. -/
def numberText (format : Text) (value : Float) : Text :=
  match wholeText? value with
  | some text => text
  | none => pointText format value (format.length + 1)

/-- The text that a value stands for, with a format for numbers. -/
def Value.toText (format : Text) : Value → Text
  | unset => []
  | number value => numberText format value
  | text inner | input inner => inner

/-- A width or a precision at the start of a format, or in the first value for a star; then the rest
of the format and the other values. -/
def amountOf (format : Text) (values : List Value) : Option Int × Text × List Value :=
  match format with
  | '*' :: rest => (values.head?.map fun value ↦ cutInt value.toNumber, rest, values.drop 1)
  | _ =>
    let digits := format.takeWhile Char.isDigit
    ((Text.toNat? 10 digits).map Int.ofNat, format.drop digits.length, values)

/-- Values in a format: the text, and what went wrong at its end. The fuel is the length of the
format. -/
def formatUpTo (convert : Text) (format : Text) (values : List Value) :
    Nat → Text × Option String
  | 0 => ([], none)
  | fuel + 1 =>
    match format with
    | [] => ([], none)
    | '%' :: '%' :: rest =>
      let (text, flaw) := formatUpTo convert rest values fuel
      ('%' :: text, flaw)
    | '%' :: inside =>
      let (layout, rest) := Shell.Format.flags inside
      let (width, rest, values) := amountOf rest values
      let (precision, rest, values) := match rest with
        | '.' :: rest =>
          let (precision, rest, values) := amountOf rest values
          (some (precision.getD 0), rest, values)
        | _ => (none, rest, values)
      let layout : Shell.Format.Layout :=
        { layout with
          width := (width.getD 0).natAbs
          left := layout.left || width.getD 0 < 0
          precision := precision.bind fun n ↦ if n < 0 then none else some n.toNat }
      match rest.dropWhile fun c ↦ c == 'l' || c == 'h', values with
      | letter :: rest, values =>
        if !"csdiouxXeEfFgG".toList.contains letter then ([], some "improper conversion")
        else
          match values with
          | [] => ([], some "not enough arguments passed to")
          | value :: values =>
            let shown : Text :=
              if letter == 's' then layout.text (value.toText convert)
              else if letter == 'c' then
                match value.isNumeric, value.toText convert with
                | true, _ => layout.fill [Shell.Format.byte (cutInt value.toNumber % 256).toNat]
                | false, text => layout.fill [text.headD (Char.ofNat 0)]
              else numberIn layout letter value.toNumber
            let (text, flaw) := formatUpTo convert rest values fuel
            (shown ++ text, flaw)
      | [], _ => ([], some "improper conversion")
    | c :: rest =>
      let (text, flaw) := formatUpTo convert rest values fuel
      (c :: text, flaw)

/-- Values in a format: the text, and what went wrong at its end. -/
def formatted (convert format : Text) (values : List Value) : Text × Option String :=
  formatUpTo convert format values (format.length + 1)

/-! ### Comparisons -/

/-- Whether a comparison holds between two values: as numbers if both are, or else as texts. -/
def Comparison.holds (comparison : Comparison) (format : Text) (a b : Value) : Bool :=
  let decided (isLess isEqual isGreater : Bool) : Bool :=
    match comparison with
    | less => isLess
    | lessEqual => isLess || isEqual
    | equal => isEqual
    | different => !isEqual
    | greater => isGreater
    | greaterEqual => isGreater || isEqual
  if a.isNumeric && b.isNumeric then
    let (a, b) := (a.toNumber, b.toNumber)
    decided (decide (a < b)) (a == b) (decide (b < a))
  else
    let (a, b) := (a.toText format, b.toText format)
    decided (decide (a < b)) (a == b) (decide (b < a))

/-! ### Parts of texts -/

/-- The part of a text from a place on, some bytes long at most. In front of the text there is
nothing, but a place there makes the part longer by as much. -/
def partOf (text : Text) (start : Float) (count : Option Float) : Text :=
  let first := cutInt start
  let behind := text.drop (first - 1).toNat
  match count with
  | none => behind
  | some count => behind.take (cutInt count - min first 0).toNat

/-- What a match is replaced by: an ampersand stands for the match, unless a backslash is in front
of it. -/
def replacedBy (found : Text) : Text → Text
  | '\\' :: '&' :: rest => '&' :: replacedBy found rest
  | '\\' :: '\\' :: '&' :: rest => '\\' :: found ++ replacedBy found rest
  | '&' :: rest => found ++ replacedBy found rest
  | c :: rest => c :: replacedBy found rest
  | [] => []

/-- A text with some matches in it replaced, from a place on. -/
def replacing (replacement : Text) (place : Nat) (text : Text) : List Regex.Match → Text
  | [] => text
  | found :: others =>
    let behind := text.drop (found.stop.index - place)
    text.take (found.start.index - place) ++ replacedBy found.text replacement
      ++ replacing replacement found.stop.index behind others

/-- What separates fields. -/
inductive Separator where
  | blanks
  | character (c : Char)
  | pattern (pattern : Regex.Pattern)
  /-- Every character is a field of its own. -/
  | nothing
  deriving Repr, DecidableEq, Inhabited

/-- The separator that a text stands for. -/
def Separator.ofText? (text : Text) : Except Flaw Separator :=
  match text with
  | [] => .ok .nothing
  | [' '] => .ok .blanks
  | [c] => .ok (.character c)
  | _ => (patternOf text).map .pattern

/-- The pieces of a text between matches, from a place on. -/
def piecesBetween (place : Nat) (text : Text) : List Regex.Match → List Text
  | [] => [text]
  | found :: others =>
    text.take (found.start.index - place)
      :: piecesBetween found.stop.index (text.drop (found.stop.index - place)) others

/-- The fields of a text. -/
def fieldsOf (separator : Separator) (text : Text) : List Text :=
  if text.isEmpty then []
  else
    match separator with
    | .blanks =>
      let isBlank (c : Char) : Bool := c == ' ' || ('\t' ≤ c && c ≤ '\r')
      (Text.splitOn ' ' (text.map fun c ↦ if isBlank c then ' ' else c)).filter fun piece ↦
        !List.isEmpty piece
    | .character c => Text.splitOn c text
    | .pattern pattern =>
      piecesBetween 0 text
        ((pattern.matchesIn text).filter fun found ↦ found.start.index < found.stop.index)
    | .nothing => text.map fun c ↦ [c]

end Dialogue.Tool.Awk
