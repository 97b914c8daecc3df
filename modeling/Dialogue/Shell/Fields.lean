import Dialogue.Files.Host
import Dialogue.Shell.Pattern
import Dialogue.Text.Bytes

/-!
# Fields

An expanded word falls into fields. Only what an expansion outside of quotes has put in is split, at
the separators of the shell: runs of blanks count as one, and every other separator ends a field,
together with the blanks around it. A field with unquoted marks of a pattern stands for the files
whose paths match it, if there are any. A line that is read falls into fields by the same rule, but
only into as many as are wanted.
-/

set_option autoImplicit false
set_option relaxedAutoImplicit false

namespace Dialogue.Shell

/-! ### Splitting -/

/-- A piece of an expanded word. -/
inductive Piece where
  | quoted (text : Text)
  | literal (text : Text)
  /-- The value of an expansion outside of quotes. -/
  | split (text : Text)
  /-- The boundary between two arguments. -/
  | boundary
  deriving Repr, DecidableEq, Inhabited

/-- A field under construction; nothing if none has begun. -/
abbrev Draft := Option (List Mark)

/-- A field with more characters. -/
def Draft.add (draft : Draft) (marks : List Mark) : Draft :=
  some (draft.getD [] ++ marks)

/-- Whether a separator is a blank. -/
def isBlankSeparator (c : Char) : Bool :=
  c == ' ' || c == '\t' || c == '\n'

/-- Splits the value of an expansion, behind a field under construction: the complete fields, and
the one that is begun. Blanks that have just ended a field are one separator with another one that
follows them. -/
def splitOpen (separators : Text) (draft : Draft) (blank : Bool) : Text → List (List Mark) × Draft
  | [] => ([], draft)
  | c :: rest =>
    if separators.contains c then
      match isBlankSeparator c, draft with
      | true, none => splitOpen separators none blank rest
      | true, some field =>
        let (fields, last) := splitOpen separators none true rest
        (field :: fields, last)
      | false, none =>
        if blank then splitOpen separators none false rest
        else
          let (fields, last) := splitOpen separators none false rest
          ([] :: fields, last)
      | false, some field =>
        let (fields, last) := splitOpen separators none false rest
        (field :: fields, last)
    else splitOpen separators (draft.add [(c, false)]) false rest

/-- The fields of an expanded word, behind one under construction. -/
def fieldsFrom (separators : Text) (draft : Draft) : List Piece → List (List Mark)
  | [] => draft.toList
  | .quoted text :: rest => fieldsFrom separators (draft.add (marksOf true text)) rest
  | .literal text :: rest => fieldsFrom separators (draft.add (marksOf false text)) rest
  | .boundary :: rest => draft.toList ++ fieldsFrom separators none rest
  | .split text :: rest =>
    let (fields, last) := splitOpen separators draft false text
    fields ++ fieldsFrom separators last rest

/-! ### Matching files -/

/-- Whether marks hold unquoted ones of a pattern. -/
def isPattern (marks : List Mark) : Bool :=
  marks.any fun (c, quoted) ↦ !quoted && (c == '*' || c == '?' || c == '[')

/-- The parts of a field between separators of a path. -/
def components : List Mark → List (List Mark)
  | [] => [[]]
  | mark :: rest =>
    match mark.1 == '/', components rest with
    | true, others => [] :: others
    | false, [] => [[mark]]
    | false, component :: others => (mark :: component) :: others

/-- The names in a directory, in the order of their bytes. -/
def namesIn (host : Host) (directory : Text) : List Text :=
  match host.lookup? ⟨if directory.isEmpty then ['.'] else Text.widen directory⟩ with
  | some (.directory entries) =>
    (['.'] :: ['.', '.'] :: entries.map fun (name, _) ↦ Text.narrow name).mergeSort fun a b ↦
      !decide (b < a)
  | _ => []

/-- The paths that match components, behind the beginning of a path. -/
def pathsBehind (host : Host) (front : Text) : List (List Mark) → List Text
  | [] => if (host.lookup? ⟨Text.widen front⟩).isSome then [front] else []
  | component :: rest =>
    let next (name : Text) : List Text :=
      pathsBehind host (if rest.isEmpty then front ++ name else front ++ name ++ ['/']) rest
    if isPattern component then
      let parts := compile component
      let hidden := component.head?.any fun (c, _) ↦ c == '.'
      (namesIn host front).flatMap fun name ↦
        if (hidden || name.head? != some '.') && Pattern.matchesParts parts name then next name
        else []
    else next (markText component)

/-- The texts that a field stands for. -/
def fieldTexts (host : Host) (field : List Mark) : List Text :=
  if isPattern field then
    match (pathsBehind host [] (components field)).mergeSort fun a b ↦ !decide (b < a) with
    | [] => [markText field]
    | paths => paths
  else [markText field]

/-! ### Results -/

/-- An expanded word as one text, as in an assignment. -/
def wordText (pieces : List Piece) : Text :=
  pieces.flatMap fun
    | .quoted text | .literal text | .split text => text
    | .boundary => [' ']

/-- An expanded word as a pattern. -/
def wordPattern (pieces : List Piece) : List Mark :=
  pieces.flatMap fun
    | .quoted text => marksOf true text
    | .literal text | .split text => marksOf false text
    | .boundary => [(' ', true)]

/-! ### Fields of a line -/

/-- Whether a mark of a line is a separator. -/
def separates (separators : Text) (mark : Mark) : Bool :=
  !mark.2 && separators.contains mark.1

/-- Whether a mark of a line is a blank among the separators. -/
def blanks (separators : Text) (mark : Mark) : Bool :=
  separates separators mark && isBlankSeparator mark.1

/-- The first field of a line, and the rest behind its separator. -/
def cutField (separators : Text) (line : List Mark) : Text × List Mark :=
  let line := line.dropWhile (blanks separators)
  let field := line.takeWhile fun mark ↦ !separates separators mark
  let rest := (line.drop field.length).dropWhile (blanks separators)
  match rest with
  | mark :: more =>
    if separates separators mark then (markText field, more.dropWhile (blanks separators))
    else (markText field, rest)
  | [] => (markText field, [])

/-- Whether marks are blanks, and at most one other separator if that is allowed. -/
def onlySeparators (separators : Text) (allowed : Bool) : List Mark → Bool
  | [] => true
  | mark :: rest =>
    if blanks separators mark then onlySeparators separators allowed rest
    else allowed && separates separators mark && onlySeparators separators false rest

/-- The last field that is wanted of a line: all that is left, without the blanks around it. If it
is a single field, its separator does not belong to it. -/
def lastField (separators : Text) (line : List Mark) : Text :=
  let line := line.dropWhile (blanks separators)
  let field := line.takeWhile fun mark ↦ !separates separators mark
  match line.drop field.length with
  | [] => markText field
  | mark :: rest =>
    if onlySeparators separators (blanks separators mark) rest then markText field
    else markText ((line.reverse.dropWhile (blanks separators)).reverse)

/-- The values of some variables that a line is read into: a field each, and the rest of the line
for the last one. -/
def lineFields (separators : Text) (line : List Mark) : List Text → List (Text × Text)
  | [] => []
  | [name] => [(name, lastField separators line)]
  | name :: names =>
    let (field, rest) := cutField separators line
    (name, field) :: lineFields separators rest names

end Dialogue.Shell
