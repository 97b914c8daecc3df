import Dialogue.Config.Value
import Dialogue.Setup
import Dialogue.Yaml.Document
import Dialogue.Yaml.Printer

/-!
# Configuration files

A configuration is read from a file that is given, or else from one that is found: the file of the
usual name in a directory or in the nearest directory above it, or the user's file. The directory of
the file is what paths in the configuration are relative to.
-/

set_option autoImplicit false
set_option relaxedAutoImplicit false

namespace Dialogue.Config

/-- A configuration and the directory that its paths are relative to. -/
structure Located where
  config : Config
  home : Path
  deriving Repr, DecidableEq

/-- The usual name of a configuration file. -/
def fileName : Text := ".lockstep.yaml".toList

/-- The user's configuration file. -/
def userFile? (host : Host) : Option Path :=
  host.configHome.map fun directory ↦
    (directory.child "lockstep".toList).child "config.yaml".toList

/-! ### Reading -/

/-- The configuration in a file. -/
def load (host : Host) (path : Path) : Except SetupError Located :=
  match host.readText path with
  | .error error => .error (.unreadable path error)
  | .ok text =>
    match Yaml.Value.parse text with
    | .error error => .error (.malformed path error.message?)
    | .ok value =>
      match ofValue value with
      | .error complaint => .error (.malformed path (some complaint))
      | .ok config => .ok ⟨config, path.parentOrCurrent⟩

/-- The file of the usual name in the nearest of the directories on the way to a place, given from
the last one upwards. -/
def fileAbove? (host : Host) : List Text → Option Path
  | [] => candidate []
  | name :: above => (candidate (name :: above)).or (fileAbove? host above)
where
  /-- The file of the usual name in a directory, if it is there. -/
  candidate (directory : List Text) : Option Path :=
    let path := (Host.pathOf directory.reverse).child fileName
    if host.isFile path then some path else none

/-- The file of the usual name in a directory or the nearest one above it. -/
def fileFrom? (host : Host) (start : Path) : Option Path :=
  match host.resolve start with
  | .ok place => if (host.at? place).isSome then fileAbove? host place.reverse else none
  | .error _ => none

/-- The configuration that is found from a directory, if there is one. -/
def discover (host : Host) (start : Path) : Except SetupError (Option Located) :=
  match (fileFrom? host start).or ((userFile? host).filter host.isFile) with
  | some path => (load host path).map some
  | none => .ok none

/-! ### Writing -/

/-- The text of a configuration file. -/
def render (config : Config) : Text :=
  config.toValue.render

/-- Writes a configuration, and makes the directories above its file. -/
def save (config : Config) (host : Host) (path : Path) : Except SetupError Host :=
  let written : Except FileError Host := do
    let made ← match path.parent? with
      | some parent => host.makeDirectories parent
      | none => .ok host
    made.writeText path config.render
  written.mapError (.unwritable path)

end Dialogue.Config
