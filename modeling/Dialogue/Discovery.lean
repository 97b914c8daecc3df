import Dialogue.Config.Basic
import Dialogue.Pattern.Braces
import Dialogue.Pattern.Glob
import Dialogue.Setup

/-!
# Finding scripts

The scripts of a suite are the files in a directory whose names match the pattern of the
configuration. A walk through the directory goes down to its own entries, or to any depth if the
configuration says so. It passes over what is excluded by name together with all that is below it,
and only the names below the directory count. Scripts are listed in the order of their paths, so the
order in which a directory lists its entries does not matter.

What a pattern without braces means is not settled here. It is the matcher `fits` that says whether
a name fits one (`scriptsBy`), and a suite is looked for with the one for wildcards (`scripts`).
-/

set_option autoImplicit false
set_option relaxedAutoImplicit false

namespace Dialogue

namespace Config

/-- Whether a component of a path is the name of something that is passed over. -/
def bars (config : Config) : Component → Bool
  | .name name => config.exclude.contains name
  | _ => false

/-- Whether a path leads through something that is passed over, from a directory on. -/
def excludes (config : Config) (directory path : Path) : Bool :=
  (directory.componentsBelow path).any config.bars

/-- Whether the name of a file fits the pattern, in a form that its braces stand for. -/
def selects (fits : Text → Text → Bool) (config : Config) (path : Path) : Bool :=
  match path.fileName? with
  | none => false
  | some name => (Pattern.expandBraces config.testPattern).any fun pattern ↦ fits pattern name

end Config

namespace Discovery

mutual

/-- The paths of the files to which a walk comes from a path on. It does not enter what is rejected,
and goes no further down than to a depth if there is one. -/
def filesAt (rejects : Path → Bool) (depth : Option Nat) (path : Path) (tree : Tree) : List Path :=
  if rejects path then []
  else
    match tree with
    | .file _ _ => [path]
    | .directory entries =>
      if depth = some 0 then [] else filesIn rejects (depth.map Nat.pred) path entries

/-- The paths of the files to which a walk comes from some entries of a directory on. -/
def filesIn (rejects : Path → Bool) (depth : Option Nat) (path : Path) :
    List (Text × Tree) → List Path
  | [] => []
  | (name, tree) :: rest =>
    filesAt rejects depth (path.child name) tree ++ filesIn rejects depth path rest

end

/-- How far down scripts are looked for. -/
def depthOf (config : Config) : Option Nat :=
  if config.recursive then none else some 1

/-- The paths of the files to which a walk through the tree at a directory comes. -/
def walked (config : Config) (directory : Path) (tree : Tree) : List Path :=
  filesAt (config.excludes directory) (depthOf config) directory tree

/-- The scripts among the files to which a walk through a directory came. It is an error if there
are none. -/
def collect (fits : Text → Text → Bool) (directory : Path) (config : Config)
    (walked : List Path) : Except SetupError (List Path) :=
  let found := walked.filter (config.selects fits)
  if found.isEmpty then .error (.noScripts directory config.testPattern)
  else .ok (found.mergeSort Path.le)

/-- The scripts in a directory, by a matcher. -/
def scriptsBy (fits : Text → Text → Bool) (host : Host) (directory : Path) (config : Config) :
    Except SetupError (List Path) :=
  match host.lookup? directory with
  | some (.directory entries) =>
    collect fits directory config (walked config directory (.directory entries))
  | _ => .error (.noDirectory directory)

/-- The scripts in a directory, by the wildcards in the pattern. -/
def scripts (host : Host) (directory : Path) (config : Config) :
    Except SetupError (List Path) :=
  scriptsBy Pattern.globMatches host directory config

end Discovery

end Dialogue
