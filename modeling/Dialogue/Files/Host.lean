import Dialogue.Files.Path
import Dialogue.Files.Tree
import Dialogue.Text.Utf8

/-!
# Hosts

A host is a tree of files together with a working directory, the directories in which commands are
looked for, and the user's directory for configurations. A path is followed from the root or from
the working directory, component by component; every component but the last must be a directory
that is there (`resolve`). Reading, writing and making directories are functions from hosts to
hosts, and what goes wrong is one of a few causes with a fixed wording.
-/

set_option autoImplicit false
set_option relaxedAutoImplicit false

namespace Dialogue

/-! ### What can go wrong -/

/-- Why a file cannot be used. -/
inductive FileError where
  | notFound
  | notPermitted
  | alreadyExists
  | notADirectory
  | isADirectory
  | notExecutable
  | nameTooLong
  | notEmpty
  /-- Too many files lead from one to the next. -/
  | tooManyLinks
  /-- There is no stream of the number. -/
  | noStream
  /-- Nobody reads what is written. -/
  | broken
  /-- The bytes of the file are no text. -/
  | notText
  /-- The path holds a character that would end it. -/
  | endedName
  deriving Repr, DecidableEq, Inhabited

namespace FileError

/-- What an error says. -/
def wording : FileError → Text
  | notFound => "No such file or directory".toList
  | notPermitted => "Permission denied".toList
  | alreadyExists => "File exists".toList
  | notADirectory => "Not a directory".toList
  | isADirectory => "Is a directory".toList
  | notExecutable => "Exec format error".toList
  | nameTooLong => "File name too long".toList
  | notEmpty => "Directory not empty".toList
  | tooManyLinks => "Too many levels of symbolic links".toList
  | noStream => "Bad file descriptor".toList
  | broken => "Broken pipe".toList
  | notText => "stream did not contain valid UTF-8".toList
  | endedName => "file name contained an unexpected NUL byte".toList

/-- The number of an error of the system. -/
def number? : FileError → Option Nat
  | notFound => some 2
  | notPermitted => some 13
  | alreadyExists => some 17
  | notADirectory => some 20
  | isADirectory => some 21
  | notExecutable => some 8
  | nameTooLong => some 36
  | notEmpty => some 39
  | tooManyLinks => some 40
  | noStream => some 9
  | broken => some 32
  | notText | endedName => none

/-- The wording of an error, with its number. -/
def message (error : FileError) : Text :=
  error.wording ++ match error.number? with
    | some n => " (os error ".toList ++ Text.ofNat n ++ [')']
    | none => []

end FileError

/-! ### Hosts -/

/-- A tree of files and what paths are relative to. -/
structure Host where
  tree : Tree
  /-- Where relative paths start. -/
  workingDirectory : Location
  /-- The directories in which commands are looked for, the first one first. -/
  searchPath : List Path
  /-- The directory of the user's configurations. -/
  configHome : Option Path
  deriving Inhabited

namespace Host

/-- The absolute path of a place. -/
def pathOf (place : Location) : Path :=
  if place = [] then ⟨['/']⟩ else ⟨place.flatMap fun name ↦ '/' :: name⟩

/-- The absolute path of the working directory. -/
def workingPath (host : Host) : Path :=
  pathOf host.workingDirectory

/-- What is at a place. -/
def at? (host : Host) (place : Location) : Option Tree :=
  host.tree.find? place

/-! ### Following paths -/

/-- The most bytes that a name may have. -/
def nameLimit : Nat := 255

/-- The number of bytes that a path must stay below. -/
def pathLimit : Nat := 4096

/-- The names on the way from the root to a place, the last one first, each with what it leads to.
-/
abbrev Trail := List (Text × Option Tree)

/-- What a trail leads to. -/
def Trail.target (trail : Trail) (root : Tree) : Option Tree :=
  match trail with
  | [] => some root
  | (_, tree) :: _ => tree

/-- The trail to an entry of what a trail leads to. -/
def Trail.enter (trail : Trail) (root : Tree) (name : Text) : Trail :=
  (name, (trail.target root).bind fun tree ↦ tree.entries.lookup name) :: trail

/-- The trail to a place. -/
def trailTo (host : Host) (place : Location) : Trail :=
  place.foldl (fun trail name ↦ trail.enter host.tree name) []

/-- Goes on by one piece of a path. The trail must lead to a directory. -/
def follow (host : Host) (trail : Trail) (piece : Text) : Except FileError Trail :=
  match trail.target host.tree with
  | none => .error .notFound
  | some (.file _ _) => .error .notADirectory
  | some (.directory _) =>
    if piece = [] ∨ piece = ['.'] then .ok trail
    else if piece = ['.', '.'] then .ok trail.tail
    else if nameLimit < Text.Utf8.size piece then .error .nameTooLong
    else .ok (trail.enter host.tree piece)

/-- What is wrong with a path, whatever there is. -/
def flawOf? (path : Path) : Option FileError :=
  if path.text.contains (Char.ofNat 0) then some .endedName
  else if path.text = [] then some .notFound
  else if pathLimit ≤ Text.Utf8.size path.text then some .nameTooLong
  else none

/-- The place that a path leads to. Nothing need be there, but all directories on the way must be.
-/
def resolve (host : Host) (path : Path) : Except FileError Location :=
  match flawOf? path with
  | some error => .error error
  | none =>
    let origin := if path.isAbsolute then [] else host.trailTo host.workingDirectory
    ((Text.splitOn '/' path.text).foldlM host.follow origin).map fun trail ↦
      (trail.map Prod.fst).reverse

/-- What a path leads to, if it leads to anything. -/
def lookup? (host : Host) (path : Path) : Option Tree :=
  match host.resolve path with
  | .ok place => host.at? place
  | .error _ => none

/-- Whether a path leads to a file. -/
def isFile (host : Host) (path : Path) : Bool :=
  (host.lookup? path).any Tree.isFile

/-- Whether a path leads to a directory. -/
def isDirectory (host : Host) (path : Path) : Bool :=
  (host.lookup? path).any Tree.isDirectory

/-- The absolute path without detours of something that is there. -/
def canonical? (host : Host) (path : Path) : Option Path :=
  match host.resolve path with
  | .ok place => (host.at? place).map fun _ ↦ pathOf place
  | .error _ => none

/-! ### Reading and writing -/

/-- The bytes of a file. -/
def readBytes (host : Host) (path : Path) : Except FileError (List UInt8) := do
  let place ← host.resolve path
  match host.at? place with
  | none => .error .notFound
  | some (.directory _) => .error .isADirectory
  | some (.file content _) => .ok content

/-- The text of a file. -/
def readText (host : Host) (path : Path) : Except FileError Text := do
  match Text.Utf8.decode? (← host.readBytes path) with
  | some text => .ok text
  | none => .error .notText

/-- The host with something put at a place. -/
def put (host : Host) (place : Location) (new : Tree) : Host :=
  { host with tree := Tree.put new host.tree place }

/-- The place of a file that may be made. A path with a separator at its end leads to none, even if
the directory above is there. -/
def placeForFile (host : Host) (path : Path) : Except FileError Location := do
  if path.text.getLast? = some '/' then
    match flawOf? path with
    | some error => .error error
    | none =>
      let name := Text.trimEndWhile (· == '/') path.text
      let above := Text.trimEndWhile (· != '/') name
      let _ ← host.resolve ⟨if above = [] then ['/'] else above⟩
      .error .isADirectory
  else
    let place ← host.resolve path
    match host.at? place with
    | some (.directory _) => .error .isADirectory
    | _ => .ok place

/-- Writes a file, in place of one that is there. -/
def writeText (host : Host) (path : Path) (text : Text) : Except FileError Host := do
  let place ← host.placeForFile path
  let executable := match host.at? place with
    | some (.file _ executable) => executable
    | _ => false
  return host.put place (.file (Text.Utf8.encode text) executable)

/-- Makes a directory in one that is there. -/
def makeDirectory (host : Host) (path : Path) : Except FileError Host := do
  let trimmed := if path.text.all (· == '/') then path.text
    else Text.trimEndWhile (· == '/') path.text
  let place ← host.resolve ⟨trimmed⟩
  match host.at? place with
  | some _ => .error .alreadyExists
  | none => .ok (host.put place .empty)

/-- Makes a directory in one that is there. One that is there already is as good as made. -/
def ensureDirectory (host : Host) (path : Path) : Except FileError Unit × Host :=
  match host.makeDirectory path with
  | .ok made => (.ok (), made)
  | .error error => (if host.isDirectory path then .ok () else .error error, host)

/-- Makes a directory and those above it that are missing, up to a number of directories. If
something goes wrong, what was made before is there. -/
def makeDirectoriesUpTo (host : Host) (path : Path) : Nat → Except FileError Unit × Host
  | 0 => (.error .notFound, host)
  | depth + 1 =>
    if path.text = [] then (.ok (), host)
    else
      match host.makeDirectory path, path.parent? with
      | .error .notFound, some parent =>
        match host.makeDirectoriesUpTo parent depth with
        | (.ok (), above) => above.ensureDirectory path
        | (.error error, above) => (.error error, above)
      | _, _ => host.ensureDirectory path

/-- Makes a directory and those above it that are missing, as far as that is possible. -/
def attemptDirectories (host : Host) (path : Path) : Except FileError Unit × Host :=
  host.makeDirectoriesUpTo path (path.text.length + 1)

/-- Makes a directory and those above it that are missing. -/
def makeDirectories (host : Host) (path : Path) : Except FileError Host :=
  let (result, made) := host.attemptDirectories path
  result.map fun _ ↦ made

end Host

end Dialogue
