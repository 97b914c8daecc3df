import Dialogue.Regex.Parser
import Dialogue.Text.Bytes
import Dialogue.Tool.Input
import Dialogue.Tool.Switches

/-!
# Searching lines

`grep` prints the lines of its inputs that match one of some patterns, or what in them matches, or
how many there are. A pattern is a regular expression in one of two ways of writing, or a plain
text.
-/

set_option autoImplicit false
set_option relaxedAutoImplicit false

namespace Dialogue.Tool

open Dialogue.Machine

/-- What is searched for, and what is told about it. -/
structure Search where
  pattern : Regex.Pattern
  /-- Whether lines are wanted that do not match. -/
  inverted : Bool
  /-- Whether only what matches is shown. -/
  onlyMatches : Bool
  numbered : Bool
  named : Bool
  /-- Whether nothing is shown, so that the first line will do. -/
  quiet : Bool
  /-- Whether lines are counted. -/
  counts : Bool
  /-- Whether the names of inputs with such lines are shown, or of those without. -/
  lists : Option Bool
  /-- How many lines are wanted of each input. -/
  most : Option Nat
  /-- How many lines are shown in front of a line, and behind it. -/
  before : Nat
  after : Nat
  /-- Whether every line is written at once. -/
  byLine : Bool
  deriving Repr, DecidableEq, Inhabited

/-- How far a search has come in an input. -/
structure SearchState where
  line : Nat
  found : Nat
  /-- The last lines that were not shown, the last one first. -/
  earlier : List (Nat × Text)
  /-- How many lines are still shown behind the last one. -/
  pending : Nat
  /-- The last line that was shown. -/
  shown : Nat
  deriving Repr, DecidableEq, Inhabited

namespace Search

/-- What stands in front of a line. -/
def front (search : Search) (name : Text) (separator : Char) (line : Nat) : Text :=
  (if search.named then name ++ [separator] else [])
    ++ (if search.numbered then Text.ofNat line ++ [separator] else [])

/-- Whether lines are shown. -/
def showsLines (search : Search) : Bool :=
  !search.quiet && !search.counts && search.lists.isNone

/-- Whether lines around a line are shown, too. -/
def showsContext (search : Search) : Bool :=
  (0 < search.before || 0 < search.after) && !search.onlyMatches

/-- What is shown of a line that is wanted. -/
def found (search : Search) (name : Text) (state : SearchState) (text : Text) : Text :=
  let front := search.front name ':' state.line
  if !search.onlyMatches then
    let gap := search.showsContext && 0 < state.shown
      && state.shown + state.earlier.length + 1 < state.line
    (if gap then "--\n".toList else [])
      ++ (state.earlier.reverse.flatMap fun (n, line) ↦ search.front name '-' n ++ line ++ ['\n'])
      ++ front ++ text ++ ['\n']
  else if search.inverted then []
  else
    let found := (search.pattern.matchesIn (Text.gather text)).filter fun one ↦ !one.text.isEmpty
    found.flatMap fun one ↦ front ++ Text.scatter one.text ++ ['\n']

/-- Looks at a line. -/
def lookAt (search : Search) (name : Text) (state : SearchState) (text : Text) :
    Work (SearchState ⊕ SearchState) := do
  let state := { state with line := state.line + 1 }
  let finish : Work Unit := if search.byLine then Work.flush else pure ()
  let wanted := (search.pattern.search (Text.gather text)).isSome != search.inverted
  let enough := search.most.any (· ≤ state.found)
  if wanted && !enough then
    if search.showsLines then
      Work.put (search.found name state text)
      finish
    let state : SearchState :=
      { state with
        found := state.found + 1, earlier := [], pending := search.after, shown := state.line }
    let ready := search.quiet || search.lists.isSome
      || (search.most.any (· ≤ state.found) && search.after = 0)
    return if ready then .inr state else .inl state
  else if 0 < state.pending && search.showsLines then
    Work.put (search.front name '-' state.line ++ text ++ ['\n'])
    finish
    let state := { state with pending := state.pending - 1, shown := state.line }
    return if enough && state.pending = 0 then .inr state else .inl state
  else
    return .inl { state with earlier := ((state.line, text) :: state.earlier).take search.before }

/-- Searches an input: how many lines there are. -/
def searchInput (search : Search) (name : Text) (stream : Nat) : Work (Nat × Option FileError) := do
  if search.most == some 0 then return (0, none)
  let (state, error) ← Work.eachLine stream (fun state line ↦ search.lookAt name state line.text)
    (⟨0, 0, [], 0, 0⟩ : SearchState)
  if search.counts && !search.quiet && error.isNone then
    Work.putLine ((if search.named then name ++ [':'] else []) ++ Text.ofNat state.found)
  match search.lists with
  | some wanted =>
    if (0 < state.found) == wanted && error.isNone then Work.putLine name
  | none => pure ()
  return (state.found, error)

end Search

/-- The switches of a search. -/
def searchSwitches : List Switch :=
  [.flag "E" "extended-regexp", .flag "F" "fixed-strings", .flag "G" "basic-regexp",
    .flag "P" "perl-regexp", .flag "iy" "ignore-case", .flag "v" "invert-match", .flag "c" "count",
    .flag "n" "line-number", .flag "q" "quiet", .flag "" "silent", .flag "s" "no-messages",
    .flag "x" "line-regexp", .flag "w" "word-regexp", .flag "o" "only-matching",
    .flag "l" "files-with-matches", .flag "L" "files-without-match", .flag "h" "no-filename",
    .flag "H" "with-filename", .flag "r" "recursive", .flag "R" "dereference-recursive",
    .flag "a" "text", .flag "" "line-buffered", .value "m" "max-count", .value "e" "regexp",
    .value "f" "file", .value "A" "after-context", .value "B" "before-context",
    .value "C" "context", .maybe "" "color", .maybe "" "colour", .flag "I" "", .flag "U" "binary",
    .value "" "label", .flag "" "no-ignore-case"]

/-- The patterns in a text, as one expression. -/
def searchedRegex (extended fixed : Bool) (texts : List Text) : Except Text Regex := do
  let patterns ← ((texts.map Text.gather).flatMap (Text.splitOn '\n')).mapM fun text ↦
    if fixed then .ok (Regex.ofText text) else Regex.parse ⟨extended, false⟩ text
  match patterns with
  | [] => .ok (.set false [] [])
  | first :: rest => .ok (rest.foldl .alt first)

/-- All files below a directory. The fuel bounds the depth. -/
def filesBelow (path : Text) (tree : Tree) : Nat → List Text
  | 0 => []
  | depth + 1 =>
    match tree with
    | .file _ _ => [path]
    | .directory entries => entries.flatMap fun (name, child) ↦
      filesBelow (Text.trimEndWhile (· == '/') path ++ '/' :: Text.narrow name) child depth

/-- Ends the tool because it is called in a wrong way. -/
def showSearchUsage {α : Type} : Work α := do
  Work.report ("Usage: grep [OPTION]... PATTERNS [FILE]...\n".toList
    ++ "Try 'grep --help' for more information.\n".toList)
  Work.stop 2

/-- Searches the lines of its inputs. -/
def grep (extended fixed : Bool) (words : List Text) : Work Nat := do
  let refuse (message : Text) : Work Choices := do
    Work.complain message
    showSearchUsage
  let choices ← Work.choicesOr refuse searchSwitches false (words.flatMap fun word ↦
    match word with
    | '-' :: digits =>
      if !digits.isEmpty && digits.all Char.isDigit then [['-', 'C'], digits] else [word]
    | _ => [word])
  let files ← Work.fold (fun texts name ↦ do
    match ← Work.readInput name with
    | .ok text => return texts ++ (lineTexts text)
    | .error error => Work.fail (name ++ ": ".toList ++ error.wording) 2)
    ([] : List Text) (choices.all "file")
  let given := choices.has "regexp" || choices.has "file"
  let (texts, operands) ← match given, choices.operands with
    | true, operands => pure (choices.all "regexp" ++ files, operands)
    | false, pattern :: operands => pure ([pattern], operands)
    | false, [] => showSearchUsage
  let way := choices.lastOf? ["extended-regexp", "fixed-strings", "basic-regexp", "perl-regexp"]
  let fixed := (way == some "fixed-strings") || (way.isNone && fixed)
  let extended := way == some "extended-regexp" || way == some "perl-regexp"
    || (way.isNone && extended)
  let regex ← match searchedRegex extended fixed texts with
    | .ok regex => pure regex
    | .error message => Work.fail message 2
  let regex := if choices.has "line-regexp" then
      .seq (.anchor .textStart) (.seq regex (.anchor .textEnd))
    else if choices.has "word-regexp" then
      .seq (.anchor .noWordBefore) (.seq regex (.anchor .noWordBehind))
    else regex
  let amount (key : String) : Work (Option Nat) :=
    match choices.last? key with
    | none => pure none
    | some word =>
      match Text.toNat? 10 word with
      | some n => pure (some n)
      | none =>
        if key == "max-count" then Work.fail "invalid max count".toList 2
        else Work.fail (word ++ ": invalid context length argument".toList) 2
  let most ← amount "max-count"
  let around := (← amount "context").getD 0
  let before := (← amount "before-context").getD around
  let after := (← amount "after-context").getD around
  let recursive := choices.has "recursive" || choices.has "dereference-recursive"
  let host ← Work.host
  let names := if !recursive then inputsOf operands
    else
      (if operands.isEmpty then [['.']] else operands).flatMap fun name ↦
        match host.lookup? ⟨Text.widen name⟩ with
        | some tree =>
          (filesBelow name tree 64).map fun path ↦
            if operands.isEmpty then path.drop 2 else path
        | none => [name]
  let named := match choices.lastOf? ["no-filename", "with-filename"] with
    | some "no-filename" => false
    | some _ => true
    | none => recursive || 1 < names.length
  let search : Search :=
    { pattern := ⟨regex, choices.has "ignore-case", false⟩
      inverted := choices.has "invert-match"
      onlyMatches := choices.has "only-matching"
      numbered := choices.has "line-number"
      named := named
      quiet := choices.has "quiet" || choices.has "silent"
      counts := choices.has "count"
      lists := (choices.lastOf? ["files-with-matches", "files-without-match"]).map
        (· == "files-with-matches")
      most := most
      before := before
      after := after
      byLine := choices.has "line-buffered" }
  let complain (name : Text) (error : FileError) : Work Unit :=
    if choices.has "no-messages" then pure ()
    else Work.complain (name ++ ": ".toList ++ error.wording)
  let (found, failed) ← Work.fold (fun (found, failed) name ↦ do
    if found && search.quiet then return (found, failed)
    let shown := if name == ['-'] then
        (choices.last? "label").getD "(standard input)".toList
      else name
    match ← Work.openInput name with
    | .error error =>
      complain name error
      return (found, true)
    | .ok stream =>
      let (count, error) ← search.searchInput shown stream
      Work.closeInput name stream
      match error with
      | some error =>
        complain name error
        return (found, true)
      | none =>
        let listed := if search.lists == some false then count = 0 else 0 < count
        return (found || listed, failed)) (false, false) names
  return if failed && !(found && search.quiet) then 2 else if found then 0 else 1

end Dialogue.Tool
