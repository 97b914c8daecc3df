import Dialogue.Shell.Arithmetic
import Dialogue.Text.Real

/-!
# Formatted output

Two commands print their arguments. One prints them as they are, but for a few sequences behind a
backslash (`echoed`). The other one fills them into a format, whose directives may give a width and
a precision, and uses the format again as long as there are arguments left (`formatted`).
-/

set_option autoImplicit false
set_option relaxedAutoImplicit false

namespace Dialogue.Shell.Format

/-! ### Sequences behind a backslash -/

/-- Whether a character is a digit of base eight. -/
def isOctal (c : Char) : Bool := '0' ≤ c && c ≤ '7'

/-- The byte with a number. -/
def byte (n : Nat) : Char := Char.ofNat (n % 256)

/-- The byte of up to three digits of base eight at the start of a text, and the rest. -/
def octal (text : Text) : Char × Text :=
  let run := (text.take 3).takeWhile isOctal
  (byte ((Text.toNat? 8 run).getD 0), text.drop run.length)

/-- What the characters behind a backslash stand for, and the rest. A backslash in front of any
other character stands for itself. -/
def escaped (text : Text) : Char × Text :=
  match text with
  | '\\' :: rest => ('\\', rest)
  | 'a' :: rest => (byte 7, rest)
  | 'b' :: rest => (byte 8, rest)
  | 'e' :: rest => (byte 27, rest)
  | 'f' :: rest => (byte 12, rest)
  | 'n' :: rest => ('\n', rest)
  | 'r' :: rest => ('\r', rest)
  | 't' :: rest => ('\t', rest)
  | 'v' :: rest => (byte 11, rest)
  | c :: _ => if isOctal c then octal text else ('\\', text)
  | [] => ('\\', [])

/-- A text with its sequences expanded, and whether one of them ends all output. The fuel is the
length of the text. -/
def expandUpTo (text : Text) : Nat → Text × Bool
  | 0 => ([], false)
  | fuel + 1 =>
    let goOn (c : Char) (rest : Text) : Text × Bool :=
      let (more, stopped) := expandUpTo rest fuel
      (c :: more, stopped)
    match text with
    | [] => ([], false)
    | '\\' :: 'c' :: _ => ([], true)
    | '\\' :: '0' :: rest =>
      let (c, rest) := octal rest
      goOn c rest
    | '\\' :: rest =>
      let (c, rest) := escaped rest
      goOn c rest
    | c :: rest => goOn c rest

/-- A text with its sequences expanded, and whether one of them ends all output. -/
def expand (text : Text) : Text × Bool :=
  if text.contains '\\' then expandUpTo text text.length else (text, false)

/-- The output for some arguments: a blank between neighbours, and a line break at the end unless
the first argument asks for none. -/
def echoed (arguments : List Text) : Text :=
  let (plain, words) := match arguments with
    | ['-', 'n'] :: rest => (true, rest)
    | _ => (false, arguments)
  match expand (Text.joinWith [' '] words) with
  | (text, true) => text
  | (text, false) => if plain then text else text ++ ['\n']

/-! ### Directives -/

/-- How a value is set. -/
structure Layout where
  /-- Whether the value stands at the left. -/
  left : Bool
  /-- Whether numbers are filled up with zeros. -/
  zeros : Bool
  /-- Whether the base of a number is shown, and its point. -/
  full : Bool
  /-- What stands in front of a number that is not negative. -/
  sign : Text
  width : Nat
  precision : Option Nat
  deriving Repr, DecidableEq, Inhabited

/-- A text filled up with blanks. -/
def Layout.fill (layout : Layout) (text : Text) : Text :=
  let blanks := List.replicate (layout.width - text.length) ' '
  if layout.left then text ++ blanks else blanks ++ text

/-- A text that is cut at the precision and filled up. -/
def Layout.text (layout : Layout) (text : Text) : Text :=
  layout.fill (match layout.precision with
    | some n => text.take n
    | none => text)

/-- A number from what stands in front of it and its digits, filled up with zeros if that is asked
for and allowed. -/
def Layout.filled (layout : Layout) (front digits : Text) (allowed : Bool) : Text :=
  let missing := layout.width - front.length - digits.length
  if layout.zeros && !layout.left && allowed then front ++ List.replicate missing '0' ++ digits
  else layout.fill (front ++ digits)

/-- The digits of a whole number with the precision as their least number. -/
def Layout.digits (layout : Layout) (base : Nat) (n : Nat) : Text :=
  let digits := if n = 0 && layout.precision == some 0 then [] else Nat.toDigits base n
  List.replicate (layout.precision.getD 1 - digits.length) '0' ++ digits

/-- A whole number with a sign. -/
def Layout.signed (layout : Layout) (n : Int) : Text :=
  layout.filled (if n < 0 then ['-'] else layout.sign) (layout.digits 10 n.natAbs)
    layout.precision.isNone

/-- A whole number without a sign in a base. -/
def Layout.unsigned (layout : Layout) (base : Nat) (n : Nat) : Text :=
  let digits := layout.digits base n
  let isBare := layout.full && base = 8 && digits.head? != some '0'
  let digits := if isBare then '0' :: digits else digits
  let front := if layout.full && base = 16 && n != 0 then ['0', 'x'] else []
  layout.filled front digits layout.precision.isNone

/-- A number with a point, in the way that a letter asks for. -/
def Layout.real (layout : Layout) (letter : Char) (value : Text.Real) : Text :=
  let front := if value.isNegative then ['-'] else layout.sign
  let precision := layout.precision.getD 6
  match value with
  | .infinite _ => layout.fill (front ++ "inf".toList)
  | .undefined _ => layout.fill (front ++ "nan".toList)
  | .finite _ binary =>
    let body := match letter with
      | 'e' => Text.Real.scaled binary precision layout.full
      | 'g' => Text.Real.general binary precision layout.full
      | 'a' => Text.Real.inSixteens binary
      | _ => Text.Real.fixed binary precision layout.full
    layout.filled front body true

/-! ### Arguments -/

/-- What is wrong with an argument or with a format. -/
inductive Complaint where
  | notNumeric (argument : Text)
  /-- A number with something behind it. -/
  | partlyNumeric (argument : Text)
  | tooLarge (argument : Text)
  /-- A directive with an unknown letter. -/
  | unknown (directive : Text)
  /-- A directive without a letter. -/
  | unfinished (directive : Text)
  deriving Repr, DecidableEq, Inhabited

/-- The wording of a complaint. -/
def Complaint.message : Complaint → Text
  | notNumeric argument => argument ++ ": expected numeric value".toList
  | partlyNumeric argument => argument ++ ": not completely converted".toList
  | tooLarge argument => argument ++ ": Numerical result out of range".toList
  | unknown directive => directive ++ ": invalid directive".toList
  | unfinished _ => "missing format character".toList

/-- What an argument is as a number, and the complaint about it. -/
structure Reading (α : Type) where
  value : α
  complaint : Option Complaint

/-- The complaint about a number of which some text is left over. -/
def leftOver (argument rest : Text) (found : Bool) : Option Complaint :=
  if rest.isEmpty then none
  else some (if found then .partlyNumeric argument else .notNumeric argument)

/-- The whole number that an argument is. A quote stands in front of a character that stands for its
number. -/
def integer (signed : Bool) (argument : Text) : Reading Int :=
  match argument with
  | '\'' :: rest | '"' :: rest => ⟨((rest.headD (byte 0)).toNat : Int), none⟩
  | _ =>
    let (negative, body) := match argument.dropWhile Arithmetic.isSpace with
      | '-' :: rest => (true, rest)
      | '+' :: rest => (false, rest)
      | rest => (false, rest)
    let (base, digits, rest) := Arithmetic.cutDigits body
    let size := Arithmetic.valueOf base digits
    let value := if negative then -size else size
    let rest := if digits.isEmpty then argument else rest
    let least := if signed then Arithmetic.least else 1 - (Arithmetic.modulus : Int)
    let greatest := if signed then Arithmetic.greatest else (Arithmetic.modulus : Int) - 1
    if value < least || greatest < value then
      let bound := if value < least && signed then least else greatest
      ⟨bound, (leftOver argument rest true) <|> some (.tooLarge argument)⟩
    else ⟨value, leftOver argument rest !digits.isEmpty⟩

/-- The number with a point that an argument is. -/
def real (argument : Text) : Reading Text.Real :=
  match argument with
  | '\'' :: rest | '"' :: rest =>
    ⟨Text.Real.ofDecimal false (rest.headD (byte 0)).toNat 0, none⟩
  | _ =>
    match Text.Real.cut? argument with
    | some (value, rest) =>
      let beyond := match value with
        | .infinite _ => argument.any Char.isDigit
        | _ => false
      ⟨value, leftOver argument rest true <|> if beyond then some (.tooLarge argument) else none⟩
    | none => ⟨.zero, leftOver argument argument false⟩

/-! ### Formats -/

/-- What has been printed, the arguments that are left, the complaints, the last one first, and
whether output ended; an error ends it as well. -/
structure Progress where
  /-- What was printed, the last piece first. -/
  printed : List Text
  arguments : List Text
  complaints : List Complaint
  stopped : Bool
  refused : Bool
  deriving Repr, DecidableEq, Inhabited

/-- The progress with some more text. -/
def Progress.print (progress : Progress) (text : Text) : Progress :=
  { progress with printed := text :: progress.printed }

/-- The progress with a complaint, if there is one. -/
def Progress.complain (progress : Progress) (complaint : Option Complaint) : Progress :=
  { progress with complaints := complaint.toList ++ progress.complaints }

/-- The progress after an error. -/
def Progress.refuse (progress : Progress) (complaint : Complaint) : Progress :=
  { progress with
    complaints := complaint :: progress.complaints, stopped := true, refused := true }

/-- The flags at the start of a directive, and the rest. -/
def flags : Text → Layout × Text
  | '-' :: rest => let (layout, rest) := flags rest; ({ layout with left := true }, rest)
  | '0' :: rest => let (layout, rest) := flags rest; ({ layout with zeros := true }, rest)
  | '#' :: rest => let (layout, rest) := flags rest; ({ layout with full := true }, rest)
  | '+' :: rest => let (layout, rest) := flags rest; ({ layout with sign := ['+'] }, rest)
  | ' ' :: rest =>
    let (layout, rest) := flags rest
    ({ layout with sign := if layout.sign.isEmpty then [' '] else layout.sign }, rest)
  | rest => (⟨false, false, false, [], 0, none⟩, rest)

/-- A number at the start of a text or, for a star, in the first argument; then the rest of the text
and the progress. -/
def amount (text : Text) (progress : Progress) : Option Int × Text × Progress :=
  match text with
  | '*' :: rest =>
    let reading := integer true (progress.arguments.headD [])
    (some reading.value, rest,
      { progress with arguments := progress.arguments.drop 1 }.complain reading.complaint)
  | _ =>
    let run := text.takeWhile Char.isDigit
    ((Text.toNat? 10 run).map Int.ofNat, text.drop run.length, progress)

/-- The layout of a directive, the rest of the format, and the progress. -/
def layoutOf (text : Text) (progress : Progress) : Layout × Text × Progress :=
  let (layout, text) := flags text
  let (width, text, progress) := amount text progress
  let layout := match width with
    | some n => { layout with width := n.natAbs, left := layout.left || n < 0 }
    | none => layout
  match text with
  | '.' :: rest =>
    let (precision, rest, progress) := amount rest progress
    let precision := precision.getD 0
    ({ layout with precision := if precision < 0 then none else some precision.toNat }, rest,
      progress)
  | _ => (layout, text, progress)

/-- The progress behind the letter of a directive, of which the whole text is given as well. -/
def directive (whole : Text) (layout : Layout) (letter : Char) (progress : Progress) : Progress :=
  let argument := progress.arguments.headD []
  let behind := { progress with arguments := progress.arguments.drop 1 }
  let unsigned (base : Nat) (change : Text → Text) : Progress :=
    let reading := integer false argument
    (behind.complain reading.complaint).print
      (change (layout.unsigned base (Arithmetic.bits reading.value)))
  let pointed (way : Char) (change : Text → Text) : Progress :=
    let reading := real argument
    (behind.complain reading.complaint).print (change (layout.real way reading.value))
  match letter with
  | 's' => behind.print (layout.text argument)
  | 'b' =>
    let (text, stopped) := expand argument
    { behind with stopped := stopped }.print (layout.text text)
  | 'c' => behind.print (layout.fill [argument.headD (byte 0)])
  | 'd' | 'i' =>
    let reading := integer true argument
    (behind.complain reading.complaint).print (layout.signed reading.value)
  | 'u' => unsigned 10 id
  | 'o' => unsigned 8 id
  | 'x' => unsigned 16 id
  | 'X' => unsigned 16 (·.map Char.toUpper)
  | 'f' | 'e' | 'g' | 'a' => pointed letter id
  | 'F' | 'E' | 'G' | 'A' => pointed letter.toLower (·.map Char.toUpper)
  | _ => progress.refuse (.unknown whole)

/-- Uses a format once. The fuel is the length of the format. -/
def pass (format : Text) (progress : Progress) : Nat → Progress
  | 0 => progress
  | fuel + 1 =>
    match format with
    | [] => progress
    | '\\' :: rest =>
      let (c, rest) := escaped rest
      pass rest (progress.print [c]) fuel
    | '%' :: '%' :: rest => pass rest (progress.print ['%']) fuel
    | '%' :: inside =>
      let (layout, rest, progress) := layoutOf inside progress
      match rest with
      | [] => progress.refuse (.unfinished format)
      | letter :: behind =>
        let whole := '%' :: inside.take (inside.length - behind.length)
        let after := directive whole layout letter progress
        if after.stopped then after else pass behind after fuel
    | c :: rest =>
      let run := c :: rest.takeWhile fun d ↦ d != '%' && d != '\\'
      pass (format.drop run.length) (progress.print run) fuel

/-- Uses a format as long as it takes up arguments and some are left, up to a number of times. -/
def passes (format : Text) (progress : Progress) : Nat → Progress
  | 0 => progress
  | times + 1 =>
    let after := pass format progress format.length
    if after.stopped || after.arguments.isEmpty ||
        after.arguments.length == progress.arguments.length then after
    else passes format after times

/-- The output of a format with arguments, the complaints, and the status. -/
def formatted (format : Text) (arguments : List Text) : Text × List Complaint × Nat :=
  let last := passes format ⟨[], arguments, [], false, false⟩ (arguments.length + 1)
  (last.printed.reverse.flatten, last.complaints.reverse,
    if last.refused then 2 else if last.complaints.isEmpty then 0 else 1)

end Dialogue.Shell.Format
