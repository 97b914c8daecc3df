import Dialogue.Channel.Chatter
import Dialogue.Run.Report

/-!
# Showing results

What is shown of a suite: a line before each script, its result and the reason of a failure, its
transcript if that is asked for, and the totals at the end. Everything shown is built from single
lines; `reportLines` and `summaryLines` are what is printed, line by line.
-/

set_option autoImplicit false
set_option relaxedAutoImplicit false

namespace Dialogue

/-- When the transcript of a script is shown. -/
inductive TranscriptMode where
  | always
  | onFailure
  | never
  deriving Repr, DecidableEq, Inhabited

/-- Whether the transcript of a script that passed or failed is shown. -/
def TranscriptMode.shows (mode : TranscriptMode) (passed : Bool) : Bool :=
  match mode with
  | always => true
  | onFailure => !passed
  | never => false

/-- The colours of what is shown. -/
inductive Color where
  | green
  | red
  | yellow
  | dim
  deriving Repr, DecidableEq, Inhabited

/-- What switches a colour on. -/
def Color.code : Color → Text
  | green => "\x1b[32m".toList
  | red => "\x1b[31m".toList
  | yellow => "\x1b[33m".toList
  | dim => "\x1b[2m".toList

/-- What switches every colour off. -/
def Color.reset : Text := "\x1b[0m".toList

/-- A text in a colour. -/
def Color.paint (color : Color) (text : Text) : Text :=
  color.code ++ text ++ Color.reset

/-- How results are shown. -/
structure Display where
  transcripts : TranscriptMode
  /-- How many characters of an expected or actual output are shown. -/
  width : Nat
  colored : Bool
  marks : Marks
  deriving Repr, DecidableEq

namespace Display

/-- How results are shown unless it is chosen otherwise, where colours cannot be seen. -/
def standard : Display where
  transcripts := .onFailure
  width := 60
  colored := false
  marks := .standard

/-- A text in a colour, if colours are shown. -/
def paint (display : Display) (color : Color) (text : Text) : Text :=
  if display.colored then color.paint text else text

/-- The beginning of a text that is too wide, with dots in place of the rest. -/
def cut (display : Display) (text : Text) : Text :=
  if text.length ≤ display.width then text
  else text.take (display.width - 3) ++ "...".toList

/-! ### Single lines -/

/-- The line before a script, which has a number among all. -/
def startLine (display : Display) (name : Text) (index total : Nat) : Text :=
  let place := '[' :: Text.ofNat index ++ '/' :: Text.ofNat total ++ [']']
  display.marks.infoLine ("## file: ".toList ++ name) ++ ' ' :: display.paint .dim place

/-- The line with the result of a script. -/
def resultLine (display : Display) (report : Report) : Text :=
  if report.passed then
    "  ".toList ++ display.paint .green ['✓'] ++ ' ' :: report.name
  else
    "  ".toList ++ display.paint .red ['✗'] ++ ' ' :: report.name ++ " (".toList
      ++ Text.ofNat report.outputsMatched ++ '/' :: Text.ofNat report.outputs
      ++ " outputs matched)".toList

/-- The lines that say why a script failed. -/
def failureLines (display : Display) (failure : Failure) : List Text :=
  let reason := "    └─ ".toList ++ display.marks.errorLine failure.message
  match failure.expected, failure.actual with
  | some expected, some actual =>
    [reason,
      "       expected: ".toList ++ display.paint .green (display.cut expected),
      "       actual:   ".toList ++ display.paint .red (display.cut actual)]
  | _, _ => [reason]

/-- The line about a file that is no script. -/
def skippedLine (display : Display) (skipped : Skipped) : Text :=
  "  ".toList ++ display.paint .yellow ['!'] ++ ' ' :: skipped.name ++ ' ' ::
    display.paint .dim ("(skipped: ".toList ++ skipped.reason ++ [')'])

/-- The line with the totals. -/
def totalsLine (display : Display) (summary : Summary) : Text :=
  let passed := "Results: ".toList ++ Text.ofNat summary.passed ++ '/' ::
    Text.ofNat summary.reports.length ++ " passed".toList
  let skipped := if summary.skipped.isEmpty then []
    else ", ".toList ++ Text.ofNat summary.skipped.length ++ " skipped".toList
  display.paint (if summary.allPassed then .green else .red) (passed ++ skipped)

/-! ### What is printed -/

/-- The lines of a transcript, in their frame. -/
def transcriptLines (display : Display) (report : Report) : List Text :=
  let content := if report.transcript.isEmpty then ["  (no output)".toList]
    else (Text.printedLines report.transcript).map fun line ↦ "  ".toList ++ line
  let log := (report.logPath.map fun path ↦
    "  ".toList ++ display.paint .dim ("[log: ".toList ++ path.text ++ [']'])).toList
  [[], display.paint .yellow "Transcript:".toList] ++ content ++ log ++ [[]]

/-- The lines about a script that has run. -/
def reportLines (display : Display) (report : Report) : List Text :=
  let reason := match report.failure? with
    | some failure => display.failureLines failure
    | none => []
  let transcript :=
    if display.transcripts.shows report.passed then display.transcriptLines report else []
  display.resultLine report :: reason ++ transcript

/-- The lines about a suite. -/
def summaryLines (display : Display) (summary : Summary) : List Text :=
  let skipped := if summary.skipped.isEmpty then []
    else [] :: summary.skipped.map display.skippedLine
  skipped ++ [[], display.totalsLine summary]

/-- Lines as they are printed. -/
def printed (lines : List Text) : Text :=
  lines.flatMap fun line ↦ line ++ ['\n']

end Display

end Dialogue
