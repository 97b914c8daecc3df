import Dialogue.Script.Printer
import Mathlib.Data.List.Forall2

/-!
# The grammar of scripts

What a script file may look like, said without a way to read it. A file falls into physical lines
(`PhysicalLines`), which are gathered into logical ones (`Gathers`): an expectation whose quote is
left open at the end of a line goes on to the line that closes it. A logical line is a case
(`IsCase`), arguments (`IsArguments`) or a remark (`IsRemark`), and a file is made of cases and
remarks, with arguments before every case if anywhere (`Derives`).

White space and decimal digits are those of Unicode throughout.
-/

set_option autoImplicit false
set_option relaxedAutoImplicit false

namespace Dialogue.Script

open Text

/-! ### Physical lines -/

/-- The pieces of a text between its line feeds. No piece stands behind a final line feed. -/
inductive AreLines : Text → List Text → Prop
  | nil : AreLines [] []
  | last {line : Text} (hne : line ≠ []) (hline : '\n' ∉ line) : AreLines line [line]
  | cons {line rest : Text} {lines : List Text} (hline : '\n' ∉ line)
    (hrest : AreLines rest lines) : AreLines (line ++ '\n' :: rest) (line :: lines)

/-- A line is what is left of a piece without the carriage returns at its end. -/
def DropsReturns (piece line : Text) : Prop :=
  (∃ count, piece = line ++ List.replicate count '\r') ∧ line.getLast? ≠ some '\r'

/-- The physical lines of a text. -/
def PhysicalLines (text : Text) (lines : List Text) : Prop :=
  ∃ pieces, AreLines text pieces ∧ List.Forall₂ DropsReturns pieces lines

/-! ### Inputs -/

/-- At least one blank, and nothing else. -/
def IsBlanks (text : Text) : Prop :=
  text ≠ [] ∧ ∀ c ∈ text, isBlank c = true

/-- At least one digit, and nothing else. -/
def IsDigits (text : Text) : Prop :=
  text ≠ [] ∧ ∀ c ∈ text, isDigit c = true

/-- What a quoted text may be that must not be empty. -/
def IsQuotable (text : Text) : Prop :=
  text ≠ [] ∧ '"' ∉ text

/-- The end of a case: a colon between blanks, and the input in quotes. -/
def IsInput (text input : Text) : Prop :=
  ∃ before after, IsBlanks before ∧ IsBlanks after ∧ IsQuotable input ∧
    text = before ++ ':' :: (after ++ inQuotes input)

/-! ### Logical lines -/

/-- A line that begins with a quote and holds no other. -/
def Opens (line : Text) : Prop :=
  ∃ rest, '"' ∉ rest ∧ line = '"' :: rest

/-- A line whose first quote ends an expectation, with an input behind it. -/
def Closes (line : Text) : Prop :=
  ∃ before rest input, '"' ∉ before ∧ IsInput rest input ∧ line = before ++ '"' :: rest

/-- The logical lines of some physical ones. A line that opens a quote is the first of a block,
unless it is the last line of all; the block ends with the first line that closes the quote. A block
without an end takes the rest of the file with it. -/
inductive Gathers : List Text → List Text → Prop
  | nil : Gathers [] []
  | line {line : Text} {rest logical : List Text} (hline : ¬Opens line ∨ rest = [])
    (hrest : Gathers rest logical) : Gathers (line :: rest) (line :: logical)
  | block {first last : Text} {middle rest logical : List Text} (hfirst : Opens first)
    (hmiddle : ∀ line ∈ middle, ¬Closes line) (hlast : Closes last)
    (hrest : Gathers rest logical) :
    Gathers (first :: (middle ++ last :: rest))
      (joinWith ['\n'] (first :: (middle ++ [last])) :: logical)
  | unclosed {first : Text} {rest : List Text} (hfirst : Opens first) (hne : rest ≠ [])
    (hrest : ∀ line ∈ rest, ¬Closes line) : Gathers (first :: rest) []

/-! ### Expectations -/

/-- An integer or a decimal fraction, with or without a minus sign. -/
def Numeral (word : Text) : Prop :=
  ∃ sign digits fraction, (sign = [] ∨ sign = ['-']) ∧ IsDigits digits ∧
    (fraction = [] ∨ ∃ places, IsDigits places ∧ fraction = '.' :: places) ∧
    word = sign ++ (digits ++ fraction)

/-- A word that may be an expectation without quotes. -/
def BareWord (word : Text) : Prop :=
  word = "null".toList ∨ word = "true".toList ∨ word = "false".toList ∨ word = errorSentinel ∨
    Numeral word

/-- The options at the beginning of a quoted expectation, and the pattern behind them. Each option
is an exclamation mark, and one with a `C` behind it makes case irrelevant. -/
inductive Options : Text → Bool → Text → Prop
  | none {pattern : Text} (hpattern : pattern.head? ≠ some '!') : Options pattern false pattern
  | inert {text pattern : Text} {ignoresCase : Bool} (htext : text.head? ≠ some 'C')
    (hrest : Options text ignoresCase pattern) : Options ('!' :: text) ignoresCase pattern
  | ignoreCase {text pattern : Text} {ignoresCase : Bool}
    (hrest : Options text ignoresCase pattern) : Options ('!' :: 'C' :: text) true pattern

/-- How an expectation is written. -/
inductive Token.WrittenAs : Token → Text → Prop
  | bare {word : Text} (hword : BareWord word) : WrittenAs (.bare word) word
  | quoted {text : Text} (htext : '"' ∉ text) : WrittenAs (.quoted text) (inQuotes text)

/-- The pattern and the mode of an expectation. A pattern for which case is irrelevant is never the
sentinel. -/
inductive Token.Means : Token → Text → MatchMode → Prop
  | bare {word : Text} (hword : word ≠ errorSentinel) : Means (.bare word) word .exact
  | bareSentinel : Means (.bare errorSentinel) errorSentinel .errorSentinel
  | ignoringCase {text pattern : Text} (hoptions : Options text true pattern) :
    Means (.quoted text) pattern .caseInsensitive
  | sentinel {text : Text} (hoptions : Options text false errorSentinel) :
    Means (.quoted text) errorSentinel .errorSentinel
  | exact {text pattern : Text} (hoptions : Options text false pattern)
    (hpattern : pattern ≠ errorSentinel) : Means (.quoted text) pattern .exact

/-! ### What a logical line is -/

/-- A line that is typed, and the output that the program must give then. -/
structure Case where
  input : Text
  pattern : Text
  mode : MatchMode
  deriving Repr, DecidableEq, Inhabited

/-- The steps of a case. -/
def Case.steps (case : Case) : List Step :=
  [.input case.input, .expect case.pattern case.mode]

/-- A line that writes a case. -/
def IsCase (line : Text) (case : Case) : Prop :=
  ∃ token written rest, Token.WrittenAs token written ∧ token.Means case.pattern case.mode ∧
    IsInput rest case.input ∧ line = written ++ rest

/-- A line that writes arguments. -/
def IsArguments (line : Text) (values : List Text) : Prop :=
  values ≠ [] ∧ (∀ value ∈ values, IsQuotable value ∧ ';' ∉ value) ∧
    line = '<' :: (joinWith [';'] (values.map inQuotes) ++ ['>'])

/-- A comment or a blank line. -/
def IsRemark (line : Text) : Prop :=
  line.head? = some '#' ∨ ∀ c ∈ line, isBlank c = true

/-! ### Whole files -/

/-- Lines that are cases and remarks. -/
inductive AreCases : List Text → List Case → Prop
  | nil : AreCases [] []
  | remark {line : Text} {lines : List Text} {cases : List Case} (hline : IsRemark line)
    (hlines : AreCases lines cases) : AreCases (line :: lines) cases
  | case {line : Text} {lines : List Text} {case : Case} {cases : List Case}
    (hline : IsCase line case) (hlines : AreCases lines cases) :
    AreCases (line :: lines) (case :: cases)

/-- Lines that are cases and remarks, with arguments in front of every case if anywhere. -/
inductive AreEntries : List Text → Option (List Text) → List Case → Prop
  | cases {lines : List Text} {cases : List Case} (hlines : AreCases lines cases) :
    AreEntries lines none cases
  | remark {line : Text} {lines : List Text} {arguments : Option (List Text)} {cases : List Case}
    (hline : IsRemark line) (hlines : AreEntries lines arguments cases) :
    AreEntries (line :: lines) arguments cases
  | arguments {line : Text} {lines values : List Text} {cases : List Case}
    (hline : IsArguments line values) (hlines : AreCases lines cases) :
    AreEntries (line :: lines) (some values) cases

/-- A text is a script file with these arguments and these cases, of which there is at least one. -/
def Derives (text : Text) (arguments : Option (List Text)) (cases : List Case) : Prop :=
  ∃ lines logical, PhysicalLines text lines ∧ Gathers lines logical ∧
    AreEntries logical arguments cases ∧ cases ≠ []

end Dialogue.Script
