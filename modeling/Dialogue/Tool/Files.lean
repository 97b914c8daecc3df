import Dialogue.Shell.Pattern
import Dialogue.Text.Bytes
import Dialogue.Tool.Input
import Dialogue.Tool.Switches

/-!
# Tools for files

Tools that list, make, copy, move and remove files and directories, or take paths apart: `ls`,
`find`, `mkdir`, `rmdir`, `rm`, `unlink`, `touch`, `cp`, `mv`, `chmod`, `cmp`, `basename`,
`dirname`, `realpath`, `readlink`, `pwd`.
-/

set_option autoImplicit false
set_option relaxedAutoImplicit false

namespace Dialogue.Tool

open Dialogue.Machine

/-- A path that a word stands for. -/
def pathOf (word : Text) : Path := ⟨Text.widen word⟩

/-- The last name in a path, and the root itself if there is none. -/
def lastName (path : Text) : Text :=
  let trimmed := Text.trimEndWhile (· == '/') path
  if trimmed.isEmpty then (if path.isEmpty then [] else ['/'])
  else (trimmed.reverse.takeWhile (· != '/')).reverse

/-- A path within a directory. -/
def within (directory name : Text) : Text :=
  if directory.getLast? == some '/' then directory ++ name else directory ++ '/' :: name

namespace Work

/-- Changes the files, or complains about a word. -/
def changeOr (complaint : Text) (result : Except FileError Host) (status : Nat) : Work Nat :=
  match result with
  | .ok host => do
    changeFiles host.tree
    return status
  | .error error => do
    complain (complaint ++ ": ".toList ++ error.wording)
    return 1

end Work

/-! ### Listing -/

/-- How files are listed. -/
structure ListStyle where
  /-- Whether hidden names are shown, and those of the directory itself and of the one above. -/
  hidden : Bool
  dots : Bool
  /-- Whether a directory is listed as a name. -/
  asNames : Bool
  reversed : Bool
  recursive : Bool
  /-- The marks behind directories and executable files. -/
  marksDirectories : Bool
  marksExecutables : Bool
  deriving Repr, DecidableEq, Inhabited

namespace ListStyle

/-- A name as it is listed. -/
def shown (style : ListStyle) (name : Text) (tree : Tree) : Text :=
  name ++ match tree with
    | .directory _ => if style.marksDirectories || style.marksExecutables then ['/'] else []
    | .file _ isExecutable => if isExecutable && style.marksExecutables then ['*'] else []

/-- Named files in the order in which they are listed. -/
def ordered (style : ListStyle) (named : List (Text × Tree)) : List (Text × Tree) :=
  let sorted := named.mergeSort fun a b ↦ !decide (b.1 < a.1)
  if style.reversed then sorted.reverse else sorted

/-- The entries of a directory that are listed. -/
def entries (style : ListStyle) (tree : Tree) : List (Text × Tree) :=
  let own := tree.entries.map fun (name, child) ↦ (Text.narrow name, child)
  let dots : List (Text × Tree) :=
    if style.dots then [(['.'], .empty), (['.', '.'], .empty)] else []
  style.ordered (dots ++ if style.hidden then own
    else own.filter fun (name, _) ↦ name.head? != some '.')

/-- The listings of a directory and, if that is wanted, of those below it. The fuel bounds the
depth. -/
def listings (style : ListStyle) (path : Text) (tree : Tree) : Nat → List (Text × List Text)
  | 0 => []
  | depth + 1 =>
    let entries := style.entries tree
    let below := if !style.recursive then []
      else entries.flatMap fun (name, child) ↦
        if child.isDirectory && name != ['.'] && name != ['.', '.'] then
          style.listings (within path name) child depth
        else []
    (path, entries.map fun (name, child) ↦ style.shown name child) :: below

end ListStyle

/-- Lists files and directories. -/
def ls (words : List Text) : Work Nat := do
  let choices ← Work.choices
    ([.flag "a" "all", .flag "A" "almost-all", .flag "d" "directory", .flag "r" "reverse",
      .flag "R" "recursive", .flag "F" "classify", .flag "p" "", .maybe "" "color"]
      ++ Switch.plain "1CmxUtSlhinsgocukLHNqQbBXvGf") false words 2
  let all := choices.has "all" || choices.has "f"
  let style : ListStyle :=
    { hidden := all || choices.has "almost-all"
      dots := all
      asNames := choices.has "directory"
      reversed := choices.has "reverse"
      recursive := choices.has "recursive" && !choices.has "directory"
      marksDirectories := choices.has "p"
      marksExecutables := choices.has "classify" }
  let operands := if choices.operands.isEmpty then [['.']] else choices.operands
  let host ← Work.host
  let found : List (Text × Except FileError Tree) := operands.map fun name ↦
    (name, match host.resolve (pathOf name) with
      | .error error => .error error
      | .ok place =>
        match host.at? place with
        | some tree => .ok tree
        | none => .error .notFound)
  let failed := found.filterMap fun
    | (name, .error error) => some (name, error)
    | _ => none
  for (name, error) in failed do
    Work.complain ("cannot access ".toList ++ quotedName name ++ ": ".toList ++ error.wording)
  let there := found.filterMap fun
    | (name, .ok tree) => some (name, tree)
    | _ => none
  let isName (entry : Text × Tree) : Bool := entry.2.isFile || style.asNames
  let names := (style.ordered (there.filter isName)).map fun (name, tree) ↦ style.shown name tree
  let listings := (style.ordered (there.filter fun entry ↦ !isName entry)).flatMap
    fun (name, tree) ↦ style.listings name tree 64
  let headed := 1 < operands.length || style.recursive
  let blocks := (if names.isEmpty then [] else [unlines names])
    ++ listings.map fun (path, lines) ↦
      (if headed then path ++ ":\n".toList else []) ++ unlines lines
  Work.put (Text.joinWith ['\n'] blocks)
  return if failed.isEmpty then 0 else 2

/-! ### Finding -/

/-- A condition on a file. -/
inductive Finding where
  | always
  | name (pattern : Text) (ignoresCase : Bool)
  | path (pattern : Text)
  | kind (isDirectory : Bool)
  | empty
  | executable
  | negated (inner : Finding)
  | both (first second : Finding)
  | either (first second : Finding)
  | print (terminator : Char)
  | delete
  deriving Repr, DecidableEq, Inhabited

namespace Finding

/-- Whether a text matches a pattern of a shell. -/
def globs (pattern text : Text) : Bool :=
  Shell.matchesPattern (Shell.marksOf false pattern) text

/-- Whether a file satisfies a condition, and what is printed and deleted meanwhile. -/
def holds (path : Text) (tree : Tree) : Finding → Bool × Text × Bool
  | always => (true, [], false)
  | name pattern ignoresCase =>
    let own := lastName path
    (if ignoresCase then globs (pattern.map Char.toLower) (own.map Char.toLower)
      else globs pattern own, [], false)
  | .path pattern => (globs pattern path, [], false)
  | kind isDirectory => (tree.isDirectory == isDirectory, [], false)
  | empty => (match tree with
      | .file content _ => content.isEmpty
      | .directory entries => entries.isEmpty, [], false)
  | executable => (match tree with
      | .file _ isExecutable => isExecutable
      | .directory _ => true, [], false)
  | negated inner =>
    let (result, shown, deleted) := inner.holds path tree
    (!result, shown, deleted)
  | both first second =>
    let (a, shown, deleted) := first.holds path tree
    if !a then (false, shown, deleted)
    else
      let (b, more, gone) := second.holds path tree
      (b, shown ++ more, deleted || gone)
  | either first second =>
    let (a, shown, deleted) := first.holds path tree
    if a then (true, shown, deleted)
    else
      let (b, more, gone) := second.holds path tree
      (b, shown ++ more, deleted || gone)
  | print terminator => (true, path ++ [terminator], false)
  | delete => (true, [], true)

/-- Whether a condition does something. -/
def acts : Finding → Bool
  | print _ | delete => true
  | negated inner => inner.acts
  | both first second | either first second => first.acts || second.acts
  | _ => false

mutual

/-- Reads conditions of which one must hold. -/
def readEither (words : List Text) : Nat → Except Text (Finding × List Text)
  | 0 => .error "expression too deep".toList
  | fuel + 1 => do
    let (first, rest) ← readBoth words fuel
    match rest with
    | word :: rest =>
      if word == "-o".toList || word == "-or".toList then
        let (second, rest) ← readEither rest fuel
        return (.either first second, rest)
      else return (first, word :: rest)
    | [] => return (first, [])
termination_by structural fuel => fuel

/-- Reads conditions that must all hold. -/
def readBoth (words : List Text) : Nat → Except Text (Finding × List Text)
  | 0 => .error "expression too deep".toList
  | fuel + 1 => do
    let (first, rest) ← readOne words fuel
    match rest with
    | [] => return (first, [])
    | word :: more =>
      if word == "-o".toList || word == "-or".toList || word == [')'] then return (first, rest)
      else
        let isAnd := word == "-a".toList || word == "-and".toList
        let (second, rest) ← readBoth (if isAnd then more else rest) fuel
        return (.both first second, rest)
termination_by structural fuel => fuel

/-- Reads a condition. -/
def readOne (words : List Text) : Nat → Except Text (Finding × List Text)
  | 0 => .error "expression too deep".toList
  | fuel + 1 =>
    match words with
    | [] => .error "expected an expression".toList
    | word :: rest =>
      match String.ofList word, rest with
      | "!", rest | "-not", rest => do
        let (inner, rest) ← readOne rest fuel
        return (.negated inner, rest)
      | "(", rest => do
        let (inner, rest) ← readEither rest fuel
        match rest with
        | [')'] :: rest => return (inner, rest)
        | _ => .error "invalid expression; I was expecting to find a ')' somewhere".toList
      | "-name", pattern :: rest => .ok (.name pattern false, rest)
      | "-iname", pattern :: rest => .ok (.name pattern true, rest)
      | "-path", pattern :: rest | "-wholename", pattern :: rest => .ok (.path pattern, rest)
      | "-type", ['f'] :: rest => .ok (.kind false, rest)
      | "-type", ['d'] :: rest => .ok (.kind true, rest)
      | "-maxdepth", _ :: rest | "-mindepth", _ :: rest => .ok (.always, rest)
      | "-empty", rest => .ok (.empty, rest)
      | "-executable", rest => .ok (.executable, rest)
      | "-print", rest => .ok (.print '\n', rest)
      | "-print0", rest => .ok (.print (Char.ofNat 0), rest)
      | "-delete", rest => .ok (.delete, rest)
      | "-true", rest => .ok (.always, rest)
      | "-false", rest => .ok (.negated .always, rest)
      | "-type", letters :: _ => .error ("Unknown argument to -type: ".toList ++ letters)
      | test, [] =>
        if ["-name", "-iname", "-path", "-wholename", "-type", "-maxdepth",
            "-mindepth"].contains test
          then .error ("missing argument to \x60".toList ++ word ++ ['\''])
        else .error ("unknown predicate \x60".toList ++ word ++ ['\''])
      | _, _ => .error ("unknown predicate \x60".toList ++ word ++ ['\''])
termination_by structural fuel => fuel

end

end Finding

/-- The number behind a word. -/
def depthBehind (name : String) : List Text → Option Nat
  | word :: value :: rest =>
    if word == name.toList then Text.toNat? 10 value else depthBehind name (value :: rest)
  | _ => none

/-- A file and all that is below it, with their depths. What is below a directory may come first.
The fuel bounds the depth. -/
def walk (belowFirst : Bool) (depth : Nat) (path : Text) (tree : Tree) :
    Nat → List (Nat × Text × Tree)
  | 0 => []
  | fuel + 1 =>
    let below := tree.entries.flatMap fun (name, child) ↦
      walk belowFirst (depth + 1) (within path (Text.narrow name)) child fuel
    if belowFirst then below ++ [(depth, path, tree)] else (depth, path, tree) :: below

/-- Finds files. -/
def find (words : List Text) : Work Nat := do
  let starts (word : Text) : Bool :=
    word == ['('] || word == ['!'] || (word.head? == some '-' && 1 < word.length)
  let roots := words.takeWhile fun word ↦ !starts word
  let rest := words.drop roots.length
  let condition ← match if rest.isEmpty then .ok (Finding.always, [])
      else Finding.readEither rest (4 * rest.length + 8) with
    | .ok (condition, _) => pure condition
    | .error message => Work.fail message 1
  let condition := if condition.acts then condition else .both condition (.print '\n')
  let least := (depthBehind "-mindepth" rest).getD 0
  let most := depthBehind "-maxdepth" rest
  let deletes := rest.contains "-delete".toList
  Work.fold (fun status root ↦ do
    let host ← Work.host
    match host.resolve (pathOf root), host.lookup? (pathOf root) with
    | .ok _, some tree =>
      for (depth, path, tree) in walk deletes 0 root tree 64 do
        if least ≤ depth && most.all (depth ≤ ·) then
          let (_, shown, deleted) := condition.holds path tree
          Work.put shown
          if deleted then
            let host ← Work.host
            match host.resolve (pathOf path) with
            | .ok place => Work.changeFiles (host.tree.remove place)
            | .error _ => pure ()
      return status
    | _, _ =>
      Work.complain (quotedWord root ++ ": ".toList ++ FileError.notFound.wording)
      return 1) 0 (if roots.isEmpty then [['.']] else roots)

/-! ### Making and removing -/

/-- Does something with each operand, of which there must be one. -/
def eachOperand (operands : List Text) (missing : String) (step : Nat → Text → Work Nat) :
    Work Nat :=
  if operands.isEmpty then Work.misused missing.toList 1 else Work.fold step 0 operands

/-- Makes directories. -/
def mkdir (words : List Text) : Work Nat := do
  let choices ← Work.choices [.flag "p" "parents", .value "m" "mode", .flag "v" "verbose"]
    false words 1
  eachOperand choices.operands "missing operand" fun status name ↦ do
    let host ← Work.host
    let result := if choices.has "parents" then host.makeDirectories (pathOf name)
      else host.makeDirectory (pathOf name)
    if choices.has "verbose" then
      match result with
      | .ok _ => Work.putLine ("mkdir: created directory ".toList ++ quotedName name)
      | .error _ => pure ()
    Work.changeOr ("cannot create directory ".toList ++ quotedWord name) result status

/-- Removes an empty directory. -/
def withoutDirectory (host : Host) (path : Path) : Except FileError Host := do
  let place ← host.resolve path
  match host.at? place with
  | none => .error .notFound
  | some (.file _ _) => .error .notADirectory
  | some (.directory []) => .ok { host with tree := host.tree.remove place }
  | some (.directory _) => .error .notEmpty

/-- Removes empty directories. -/
def rmdir (words : List Text) : Work Nat := do
  let choices ← Work.choices
    [.flag "p" "parents", .flag "v" "verbose", .flag "" "ignore-fail-on-non-empty"] false words 1
  eachOperand choices.operands "missing operand" fun status name ↦ do
    let host ← Work.host
    Work.changeOr ("failed to remove ".toList ++ quotedName name)
      (withoutDirectory host (pathOf name)) status

/-- The host without a file, or without a directory and all that is in it. -/
def without (recursive emptyToo : Bool) (host : Host) (path : Path) : Except FileError Host := do
  let place ← host.resolve path
  match host.at? place with
  | none => .error .notFound
  | some (.directory entries) =>
    if recursive || (emptyToo && entries.isEmpty) then
      .ok { host with tree := host.tree.remove place }
    else .error .isADirectory
  | some (.file _ _) => .ok { host with tree := host.tree.remove place }

/-- Removes files. -/
def rm (words : List Text) : Work Nat := do
  let choices ← Work.choices
    [.flag "rR" "recursive", .flag "f" "force", .flag "d" "dir", .flag "v" "verbose", .flag "i" "",
      .flag "I" ""] false words 1
  let force := choices.has "force"
  if choices.operands.isEmpty && force then return 0
  eachOperand choices.operands "missing operand" fun status name ↦ do
    let host ← Work.host
    if choices.has "recursive" && [['.'], ['.', '.']].contains (lastName name) then
      Work.complain ("refusing to remove '.' or '..' directory: skipping ".toList
        ++ quotedName name)
      return 1
    if choices.has "recursive" && (host.resolve (pathOf name)).toOption == some [] then
      Work.complain ("it is dangerous to operate recursively on ".toList ++ quotedName ['/'])
      Work.complain "use --no-preserve-root to override this failsafe".toList
      return 1
    let result := without (choices.has "recursive") (choices.has "dir") host (pathOf name)
    match result with
    | .error .notFound | .error .notADirectory =>
      if force then return status
    | .ok _ =>
      if choices.has "verbose" then Work.putLine ("removed ".toList ++ quotedName name)
    | _ => pure ()
    Work.changeOr ("cannot remove ".toList ++ quotedName name) result status

/-- Removes a file. -/
def unlink (words : List Text) : Work Nat := do
  let choices ← Work.choices [] false words 1
  eachOperand choices.operands "missing operand" fun status name ↦ do
    let host ← Work.host
    Work.changeOr ("cannot unlink ".toList ++ quotedName name)
      (without false false host (pathOf name)) status

/-- Makes files that are not there. -/
def touch (words : List Text) : Work Nat := do
  let choices ← Work.choices
    [.flag "c" "no-create", .flag "a" "", .flag "m" "", .value "d" "date", .value "t" "",
      .value "r" "reference"] false words 1
  eachOperand choices.operands "missing file operand" fun status name ↦ do
    let host ← Work.host
    let result : Except FileError Host :=
      match host.lookup? (pathOf name) with
      | some _ => .ok host
      | none =>
        if choices.has "no-create" then .ok host else host.writeText (pathOf name) []
    Work.changeOr ("cannot touch ".toList ++ quotedName name) result status

/-! ### Copying and moving -/

/-- A source and where it goes to. -/
abbrev Transfer := Text × Text

/-- What is copied or moved to where: into a directory, or to a path. -/
def transfers (host : Host) (choices : Choices) : Except (Text × Bool) (List Transfer) :=
  match choices.operands.reverse with
  | [] => .error ("missing file operand".toList, true)
  | last :: before =>
    let (target, sources) := match choices.last? "target-directory" with
      | some directory => (directory, choices.operands)
      | none => (last, before.reverse)
    if sources.isEmpty then
      .error ("missing destination file operand after ".toList ++ quotedName last, true)
    else if host.isDirectory (pathOf target) && !choices.has "no-target-directory" then
      .ok (sources.map fun source ↦ (source, within target (lastName source)))
    else
      match sources with
      | [source] => .ok [(source, target)]
      | _ =>
        .error ("target ".toList ++ quotedName target ++
          (if (host.lookup? (pathOf target)).isSome then ": Not a directory"
            else ": No such file or directory").toList, false)

/-- Does something with each source. -/
def eachTransfer (choices : Choices) (step : Nat → Transfer → Work Nat) : Work Nat := do
  match transfers (← Work.host) choices with
  | .ok transfers => Work.fold step 0 transfers
  | .error (message, true) => Work.misused message 1
  | .error (message, false) => Work.fail message 1

/-- The switches of copying and moving. -/
def transferSwitches : List Switch :=
  [.flag "rR" "recursive", .flag "a" "archive", .flag "f" "force", .flag "n" "no-clobber",
    .flag "v" "verbose", .flag "T" "no-target-directory", .value "t" "target-directory",
    .flag "p" "", .flag "i" "interactive", .flag "u" "update", .flag "P" "", .flag "d" "",
    .flag "L" "dereference"]

/-- Copies files. -/
def cp (words : List Text) : Work Nat := do
  let choices ← Work.choices transferSwitches false words 1
  let recursive := choices.has "recursive" || choices.has "archive"
  eachTransfer choices fun status (source, target) ↦ do
    let host ← Work.host
    let refuse (message : Text) : Work Nat := do
      Work.complain message
      return 1
    match host.resolve (pathOf source), host.lookup? (pathOf source) with
    | .error error, _ =>
      refuse ("cannot stat ".toList ++ quotedName source ++ ": ".toList ++ error.wording)
    | .ok _, none =>
      refuse ("cannot stat ".toList ++ quotedName source ++ ": ".toList
        ++ FileError.notFound.wording)
    | .ok place, some tree =>
      if tree.isDirectory && !recursive then
        refuse ("-r not specified; omitting directory ".toList ++ quotedName source)
      else
        match host.resolve (pathOf target) with
        | .error error =>
          refuse ("cannot create ".toList ++ (if tree.isDirectory then "directory " else
            "regular file ").toList ++ quotedName target ++ ": ".toList ++ error.wording)
        | .ok goal =>
          if goal == place then
            refuse (quotedName source ++ " and ".toList ++ quotedName target
              ++ " are the same file".toList)
          else if choices.has "no-clobber" && (host.at? goal).isSome then return status
          else
            if choices.has "verbose" then
              Work.putLine (quotedName source ++ " -> ".toList ++ quotedName target)
            Work.changeFiles (host.put goal tree).tree
            return status

/-- Moves files. -/
def mv (words : List Text) : Work Nat := do
  let choices ← Work.choices transferSwitches false words 1
  eachTransfer choices fun status (source, target) ↦ do
    let host ← Work.host
    let refuse (message : Text) : Work Nat := do
      Work.complain message
      return 1
    match host.resolve (pathOf source), host.lookup? (pathOf source) with
    | .error error, _ =>
      refuse ("cannot stat ".toList ++ quotedName source ++ ": ".toList ++ error.wording)
    | .ok _, none =>
      refuse ("cannot stat ".toList ++ quotedName source ++ ": ".toList
        ++ FileError.notFound.wording)
    | .ok place, some tree =>
      match host.resolve (pathOf target) with
      | .error error =>
        refuse ("cannot move ".toList ++ quotedName source ++ " to ".toList ++ quotedName target
          ++ ": ".toList ++ error.wording)
      | .ok goal =>
        if goal == place then
          refuse (quotedName source ++ " and ".toList ++ quotedName target
            ++ " are the same file".toList)
        else if tree.isDirectory && place.isPrefixOf goal then
          refuse ("cannot move ".toList ++ quotedName source
            ++ " to a subdirectory of itself, ".toList ++ quotedName target)
        else if choices.has "no-clobber" && (host.at? goal).isSome then return status
        else
          if choices.has "verbose" then
            Work.putLine ("renamed ".toList ++ quotedName source ++ " -> ".toList
              ++ quotedName target)
          Work.changeFiles ({ host with tree := host.tree.remove place }.put goal tree).tree
          return status

/-! ### Permissions -/

/-- Whether a file is executable by a mode, if it was so before or not. -/
def executableBy? (mode : Text) (before : Bool) : Option Bool :=
  match Text.toNat? 8 mode with
  | some n => some (n % 2 = 1 || n / 8 % 2 = 1 || n / 64 % 2 = 1)
  | none => (Text.splitOn ',' mode).foldlM (fun before clause ↦
    let rest := clause.dropWhile fun c ↦ "ugoa".toList.contains c
    match rest with
    | sign :: letters =>
      if !letters.all fun c ↦ "rwxXst".toList.contains c then none
      else
        let names := letters.contains 'x' || (letters.contains 'X' && before)
        match sign with
        | '+' => some (before || names)
        | '-' => some (before && !names)
        | '=' => some names
        | _ => none
    | [] => none) before

/-- A tree with the permissions of its files changed. The fuel bounds the depth. -/
def withMode (mode : Text) (recursive : Bool) : Nat → Tree → Tree
  | _, .file content isExecutable =>
    .file content ((executableBy? mode isExecutable).getD isExecutable)
  | 0, tree => tree
  | depth + 1, .directory entries =>
    if recursive then
      .directory (entries.map fun (name, child) ↦ (name, withMode mode recursive depth child))
    else .directory entries

/-- Changes who may run files. -/
def chmod (words : List Text) : Work Nat := do
  let isMode (word : Text) : Bool :=
    word.head? == some '-' && 1 < word.length
      && (word.drop 1).all fun c ↦ "rwxXst,+-=ugoa".toList.contains c
  let words := if words.any isMode && !words.contains ['-', '-'] then
      (words.filter fun word ↦ !isMode word && word.head? == some '-') ++ [['-', '-']]
        ++ (words.filter fun word ↦ isMode word || word.head? != some '-')
    else words
  let choices ← Work.choices
    [.flag "R" "recursive", .flag "v" "verbose", .flag "f" "silent", .flag "c" "changes"]
    false words 1
  match choices.operands with
  | [] => Work.misused "missing operand".toList 1
  | [mode] => Work.misused ("missing operand after ".toList ++ quotedWord mode) 1
  | mode :: names =>
    if (executableBy? mode false).isNone then
      Work.misused ("invalid mode: ".toList ++ quotedWord mode) 1
    else
      Work.fold (fun status name ↦ do
        let host ← Work.host
        let result : Except FileError Host := do
          let place ← host.resolve (pathOf name)
          match host.at? place with
          | none => .error .notFound
          | some tree => .ok (host.put place (withMode mode (choices.has "recursive") 64 tree))
        Work.changeOr ("cannot access ".toList ++ quotedName name) result status) 0 names

/-! ### Comparing -/

/-- The first place where two texts differ: its number and that of its line, counted from one. -/
def firstDifference? (position line : Nat) : Text → Text → Option (Nat × Nat × Option Bool)
  | [], [] => none
  | [], _ :: _ => some (position, line, some true)
  | _ :: _, [] => some (position, line, some false)
  | a :: x, b :: y =>
    if a == b then firstDifference? (position + 1) (if a == '\n' then line + 1 else line) x y
    else some (position, line, none)

/-- Compares two files byte by byte. -/
def cmp (words : List Text) : Work Nat := do
  let choices ← Work.choices
    [.flag "s" "quiet", .flag "" "silent", .flag "l" "verbose", .flag "b" "print-bytes"]
    false words 2
  match choices.operands with
  | [] => do
    Work.complain ("missing operand after ".toList ++ quotedName (← Work.toolName))
    Work.fail ("Try '".toList ++ (← Work.toolName) ++ " --help' for more information.".toList) 2
  | first :: rest =>
    let second := rest.headD ['-']
    let quiet := choices.has "quiet" || choices.has "silent"
    let texts ← Work.fold (fun texts name ↦ do
      match ← Work.readInput name with
      | .ok text => return texts ++ [text]
      | .error error =>
        if quiet then Work.stop 2 else Work.fail (name ++ ": ".toList ++ error.wording) 2)
      ([] : List Text) [first, second]
    let a := texts.headD []
    let b := (texts.drop 1).headD []
    match firstDifference? 1 1 a b with
    | none => return 0
    | some (position, line, ended) =>
      if quiet then return 1
      match ended with
      | none =>
        Work.putLine (first ++ ' ' :: second ++ " differ: char ".toList ++ Text.ofNat position
          ++ ", line ".toList ++ Text.ofNat line)
      | some firstEnded =>
        let shorter := if firstEnded then a else b
        let name := if firstEnded then first else second
        let place := if shorter.isEmpty then " which is empty".toList
          else " after byte ".toList ++ Text.ofNat (position - 1)
            ++ (if shorter.getLast? == some '\n' then ", line " else ", in line ").toList
            ++ Text.ofNat (if shorter.getLast? == some '\n' then line - 1 else line)
        Work.complain ("EOF on ".toList ++ name ++ place)
      return 1

/-! ### Paths -/

/-- Prints the last names of paths. -/
def basename (words : List Text) : Work Nat := do
  let choices ← Work.choices
    [.flag "a" "multiple", .value "s" "suffix", .flag "z" "zero"] true words 1
  let suffix := choices.last? "suffix"
  let strip (suffix name : Text) : Text :=
    if name != suffix && Text.endsWith suffix name then name.take (name.length - suffix.length)
    else name
  let several := choices.has "multiple" || suffix.isSome
  match choices.operands with
  | [] => Work.misused "missing operand".toList 1
  | operands =>
    if several then
      for name in operands do
        Work.putLine (strip (suffix.getD []) (lastName name))
      return 0
    else
      match operands with
      | name :: rest =>
        Work.atMost choices 2 1
        Work.putLine (strip (rest.headD []) (lastName name))
        return 0
      | [] => return 0

/-- A path without its last name. -/
def pathAbove (path : Text) : Text :=
  let trimmed := Text.trimEndWhile (· == '/') path
  if trimmed.isEmpty then (if path.isEmpty then ['.'] else ['/'])
  else
    let above := Text.trimEndWhile (· != '/') trimmed
    if above.isEmpty then ['.']
    else
      let plain := Text.trimEndWhile (· == '/') above
      if plain.isEmpty then ['/'] else plain

/-- Prints paths without their last names. -/
def dirname (words : List Text) : Work Nat := do
  let choices ← Work.choices [.flag "z" "zero"] false words 1
  eachOperand choices.operands "missing operand" fun status name ↦ do
    Work.putLine (pathAbove name)
    return status

/-- The absolute path without detours of a word. What is missing may be the last name, or
anything. -/
def fullPath (host : Host) (mustBe : Bool) (word : Text) : Except FileError Text := do
  let place ← host.resolve (pathOf word)
  if mustBe && (host.at? place).isNone then .error .notFound
  else return Text.narrow (Host.pathOf place).text

/-- Prints absolute paths. -/
def realpath (words : List Text) : Work Nat := do
  let choices ← Work.choices
    [.flag "e" "canonicalize-existing", .flag "m" "canonicalize-missing", .flag "q" "quiet",
      .flag "s" "no-symlinks", .flag "z" "zero", .flag "L" "logical", .flag "P" "physical"]
    false words 1
  eachOperand choices.operands "missing operand" fun status name ↦ do
    match fullPath (← Work.host) (choices.has "canonicalize-existing") name with
    | .ok path =>
      Work.putLine path
      return status
    | .error error =>
      if !choices.has "quiet" then Work.complain (shownName name ++ ": ".toList ++ error.wording)
      return 1

/-- Prints where links lead to; as there are none, it prints only absolute paths. -/
def readlink (words : List Text) : Work Nat := do
  let choices ← Work.choices
    [.flag "f" "canonicalize", .flag "e" "canonicalize-existing", .flag "m" "canonicalize-missing",
      .flag "n" "no-newline", .flag "q" "quiet", .flag "s" "silent", .flag "v" "verbose"]
    false words 1
  let full := ["canonicalize", "canonicalize-existing", "canonicalize-missing"].any choices.has
  eachOperand choices.operands "missing operand" fun status name ↦ do
    if !full then return 1
    match fullPath (← Work.host) (choices.has "canonicalize-existing") name with
    | .ok path =>
      Work.put (if choices.has "no-newline" then path else path ++ ['\n'])
      return status
    | .error _ => return 1

/-- Prints the working directory. -/
def pwd (_words : List Text) : Work Nat := do
  Work.putLine (Text.narrow (← Work.host).workingPath.text)
  return 0

end Dialogue.Tool
