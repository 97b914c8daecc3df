import Dialogue.Channel.Chatter
import Dialogue.Files.Path

/-!
# Configurations

A configuration says where scripts are looked for and which ones, which program they are for, and
how it is run. A path in it is relative to the directory of the configuration (`searchDirectory`)
or to the directory of the scripts (`logDirectoryFor`).
-/

set_option autoImplicit false
set_option relaxedAutoImplicit false

namespace Dialogue

/-- How scripts are found and run. -/
structure Config where
  /-- The directory of the scripts. -/
  testSources : Option Path
  /-- The program that the scripts are for. -/
  program : Option Text
  /-- The arguments of the program that stand before those of a script. -/
  programArguments : List Text
  /-- The pattern that names of scripts match. -/
  testPattern : Text
  /-- Whether directories in the directory of the scripts are searched as well. -/
  recursive : Bool
  /-- Names of files and directories that are passed over. -/
  exclude : List Text
  /-- The directory of the logs. -/
  logDirectory : Path
  errorMark : Text
  infoMark : Text
  /-- How many seconds a program may take for a line that is expected. -/
  timeout : Nat
  deriving Repr, DecidableEq

namespace Config

/-- The configuration that is used where no other one says otherwise. -/
def standard : Config where
  testSources := none
  program := none
  programArguments := []
  testPattern := "*.test".toList
  recursive := false
  exclude := ["logs", "target", ".git"].map String.toList
  logDirectory := .ofString "logs"
  errorMark := Marks.standard.error
  infoMark := Marks.standard.info
  timeout := 5

/-- What is chosen in place of what a configuration says. -/
structure Overrides where
  program : Option Text
  testSources : Option Path
  testPattern : Option Text
  deriving Repr, DecidableEq

/-- A configuration with some of its entries chosen otherwise. -/
def withOverrides (config : Config) (overrides : Overrides) : Config :=
  { config with
    program := overrides.program <|> config.program
    testSources := overrides.testSources <|> config.testSources
    testPattern := overrides.testPattern.getD config.testPattern }

/-- The directory of the scripts: relative to the directory of the configuration if there is one,
and to a base directory otherwise; without an entry it is the base directory. -/
def searchDirectory (config : Config) (base : Path) (home : Option Path) : Path :=
  match config.testSources with
  | none => base
  | some sources => (home.getD base).join sources

/-- The directory of the logs of scripts in a directory. -/
def logDirectoryFor (config : Config) (scripts : Path) : Path :=
  scripts.join config.logDirectory

/-- The marks of chatter. -/
def marks (config : Config) : Marks :=
  ⟨config.errorMark, config.infoMark⟩

end Config

end Dialogue
