import Dialogue.CommandLine
import Dialogue.Files.Changes
import Dialogue.Session

/-!
# The program

The outer layer of the harness: it takes in the files that a session may look at, which are those
below the working directory, the configurations, and those that the command line or the
configuration names, then conducts the session, and carries out what it has printed and written.

A link is followed where it is named. One that is merely found in a directory is left out, as is
everything else that is neither a file nor a directory, since a walk for scripts does not come to
what is behind it.
-/

set_option autoImplicit false
set_option relaxedAutoImplicit false

namespace Dialogue.Main

/-! ### Taking in files -/

/-- How deep directories are followed. -/
def depthLimit : Nat := 40

/-- The place of an absolute path. -/
def placeOf (path : String) : Location :=
  (Path.ofString path).components.filterMap fun
    | .name name => some name
    | _ => none

/-- Whether an entry of a directory is a file or a directory itself, and not a link to one. -/
def isProper (entry : IO.FS.DirEntry) : IO Bool := do
  try
    match (← entry.path.symlinkMetadata).type with
    | .dir | .file => return true
    | .symlink | .other => return false
  catch _ => return false

/-- Takes in what is at a path, if there is anything: what a link there leads to, but nothing behind
the links below it. Files that name an interpreter are marked as executables. -/
def takeIn : Nat → String → IO (Option Tree)
  | 0, _ => return none
  | depth + 1, path => do
    try
      let real ← IO.FS.realPath path
      if ← real.isDir then
        let mut entries : List (Text × Tree) := []
        for entry in ← real.readDir do
          if ← isProper entry then
            if let some tree ← takeIn depth entry.path.toString then
              entries := (entry.fileName.toList, tree) :: entries
        return some (.directory entries.reverse)
      else
        let content := (← IO.FS.readBinFile path).toList
        return some (.file content (interpreterOf? content).isSome)
    catch _ => return none

/-- Takes in what is at an absolute path and puts it at its place, unless it has been taken in with
the working directory. -/
def addPath (host : Host) (path : String) : IO Host := do
  let place := placeOf path
  if host.workingDirectory.isPrefixOf place && (host.at? place).isSome then return host
  match ← takeIn depthLimit path with
  | some tree => return host.put place tree
  | none => return host

/-- Takes in what is at a path that is named, which may be relative. -/
def addNamed (host : Host) (path : Path) : IO Host :=
  match host.resolve path with
  | .ok place => addPath host (String.ofList (Host.pathOf place).text)
  | .error _ => addPath host (String.ofList (host.workingPath.join path).text)

/-- The paths that a request names. -/
def requestedPaths : Request → List Path
  | .run selection choices =>
    selection.path.toList ++ selection.config.toList ++ (choices.program.map Path.mk).toList
  | .check selection | .list selection => selection.path.toList ++ selection.config.toList
  | .programs => []

/-- The paths that a configuration names: of the directory of the scripts, and of the program. -/
def configuredPaths (host : Host) : Request → List Path
  | .run selection _ | .check selection | .list selection =>
    match Session.originOf host selection.config with
    | .ok origin =>
      origin.config.searchDirectory host.workingPath origin.home ::
        (origin.config.program.map Path.mk).toList
    | .error _ => []
  | .programs => []

/-- The configuration files above a directory. -/
def configurationsAbove (directory : Location) : List String :=
  (List.range (directory.length + 1)).map fun n ↦
    String.ofList ((Host.pathOf (directory.take n)).child Config.fileName).text

/-- The host as a session with a request sees it. -/
def hostFor (request : Request) : IO Host := do
  let here := (← IO.currentDir).toString
  let home ← IO.getEnv "HOME"
  let configHome ← IO.getEnv "XDG_CONFIG_HOME"
  let configurations := (configHome.map Path.ofString).or
    (home.map fun h ↦ (Path.ofString h).child ".config".toList)
  let bare : Host := {
    tree := .empty
    workingDirectory := placeOf here
    searchPath := ["/usr/local/bin", "/usr/bin", "/bin"].map Path.ofString
    configHome := configurations }
  let around ← (here :: configurationsAbove (placeOf here)).foldlM addPath bare
  let requested ← (requestedPaths request ++ (Config.userFile? around).toList).foldlM addNamed around
  let host ← (configuredPaths requested request).foldlM addNamed requested
  return (host.withTools ["usr".toList, "bin".toList]).withTools ["bin".toList]

/-! ### Carrying out -/

/-- Writes what a session has changed. -/
def carryOut (old new : Host) : IO Unit := do
  for (place, tree) in Tree.changes [] (some old.tree) new.tree do
    let path := String.ofList (Host.pathOf place).text
    match tree with
    | .directory _ => IO.FS.createDirAll path
    | .file content _ => IO.FS.writeBinFile path (ByteArray.mk content.toArray)

/-- Says how the harness is used. -/
def usage : String :=
  "Usage: lockstep [--verbose] run|check|list [PATH] [OPTIONS]\n       lockstep programs"

/-- Uses the harness with the words of a command line, and returns its exit status. -/
def conduct (words : List String) : IO UInt32 := do
  match CommandLine.parse (words.map String.toList) with
  | .help =>
    IO.println usage
    return 0
  | .misuse =>
    IO.eprintln usage
    return UInt32.ofNat ExitStatus.setupFailure.code
  | .request request _ =>
    let host ← hostFor request
    let colored ← (← IO.getStdout).isTty
    let ending := Session.conduct host colored request
    IO.print (String.ofList ending.output)
    if let some line := ending.complaint then
      IO.eprintln (String.ofList (Color.red.paint line))
    carryOut host ending.host
    return UInt32.ofNat ending.status.code

end Dialogue.Main

/-- The program. -/
def main (words : List String) : IO UInt32 :=
  Dialogue.Main.conduct words
