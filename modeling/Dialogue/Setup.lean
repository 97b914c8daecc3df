import Dialogue.Files.Host
import Dialogue.Text.Quoted

/-!
# Setting up

What can go wrong before any script is run: a configuration cannot be read, understood or written,
no scripts are found, or the program to be run is not known.
-/

set_option autoImplicit false
set_option relaxedAutoImplicit false

namespace Dialogue

/-- Why no script was run. -/
inductive SetupError where
  /-- A configuration cannot be read. -/
  | unreadable (path : Path) (cause : FileError)
  /-- A configuration cannot be understood. What is wrong with its writing is not said. -/
  | malformed (path : Path) (cause : Option Text)
  /-- A configuration cannot be written. -/
  | unwritable (path : Path) (cause : FileError)
  /-- There is no directory of scripts. -/
  | noDirectory (path : Path)
  /-- The directory of scripts holds none. -/
  | noScripts (directory : Path) (pattern : Text)
  /-- No program was chosen. -/
  | noProgram
  /-- The program is neither known nor found. -/
  | unknownProgram (name : Text)
  /-- The directory of logs cannot be made. -/
  | noLogDirectory (path : Path) (cause : FileError)
  deriving Repr, DecidableEq

namespace SetupError

/-- The cause behind an error, if there is one that is an error itself. -/
def cause? : SetupError → Option Text
  | unreadable _ cause | noLogDirectory _ cause => some cause.message
  | malformed _ cause => cause
  | _ => none

/-- The wording of an error. -/
def message : SetupError → Text
  | unreadable path cause =>
    "Failed to read config file ".toList ++ Text.quoted path.text ++ ": ".toList ++ cause.message
  | malformed path cause =>
    "Failed to parse config file ".toList ++ Text.quoted path.text ++ ": ".toList
      ++ cause.getD []
  | unwritable path cause =>
    "Failed to write config file ".toList ++ Text.quoted path.text ++ ": ".toList
      ++ cause.message
  | noDirectory path => "Not a valid scripts directory: ".toList ++ Text.quoted path.text
  | noScripts directory pattern =>
    "Scripts directory ".toList ++ Text.quoted directory.text
      ++ " doesn't contain files matching '".toList ++ pattern ++ "'".toList
  | noProgram =>
    "No program configured. Pass --program or set \x60program\x60 in .lockstep.yaml".toList
  | unknownProgram name =>
    "Program '".toList ++ name
      ++ "' not found. Use 'lockstep programs' to list builtin programs".toList
  | noLogDirectory path cause =>
    "Failed to create log directory ".toList ++ Text.quoted path.text ++ ": ".toList
      ++ cause.message

end SetupError

end Dialogue
