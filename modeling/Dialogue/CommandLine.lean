import Dialogue.Display
import Dialogue.Files.Path

/-!
# The command line

A command line names one of a few commands, with settings that take a value, switches that take
none, and at most one path. A setting may be joined to its value by an equals sign, or behind a
single letter without one; letters of switches may stand together. What stands behind two hyphens
is a path even if it begins with one. Everything may be given once, and a line that asks for help
up to the first mistake gets it (`CommandLine.parse`).
-/

set_option autoImplicit false
set_option relaxedAutoImplicit false

namespace Dialogue

/-! ### Requests -/

/-- Which scripts a command is about. -/
structure Selection where
  /-- A script or a directory of scripts. -/
  path : Option Path
  /-- The file of the configuration. -/
  config : Option Path
  pattern : Option Text
  deriving Repr, DecidableEq, Inhabited

/-- How scripts are run. -/
structure Choices where
  program : Option Text
  /-- Whether the summary is for machines. -/
  json : Bool
  transcripts : TranscriptMode
  /-- Whether the configuration is saved. -/
  saving : Bool
  deriving Repr, DecidableEq, Inhabited

/-- What a command line asks for. -/
inductive Request where
  | run (selection : Selection) (choices : Choices)
  | check (selection : Selection)
  | list (selection : Selection)
  | programs
  deriving Repr, DecidableEq, Inhabited

namespace CommandLine

/-- What a command line comes to. -/
inductive Reading where
  | request (request : Request) (verbose : Bool)
  | help
  | misuse
  deriving Repr, DecidableEq, Inhabited

/-- Why the reading of a command line stops. -/
inductive Stop where
  | help
  | misuse
  deriving Repr, DecidableEq, Inhabited

/-! ### Settings and switches -/

/-- What takes a value. -/
inductive Setting where
  | program
  | config
  | pattern
  | transcript
  deriving Repr, DecidableEq, Inhabited

/-- What takes no value. -/
inductive Switch where
  | verbose
  | help
  | json
  | saveConfig
  deriving Repr, DecidableEq, Inhabited

/-- What a command takes. -/
structure Usage where
  settings : List Setting
  switches : List Switch
  takesPath : Bool
  deriving Repr, DecidableEq, Inhabited

/-- What a command was given. -/
structure Given where
  settings : List (Setting × Text)
  switches : List Switch
  path : Option Text
  deriving Repr, DecidableEq, Inhabited

/-- The setting of a name. -/
def Setting.ofName? : String → Option Setting
  | "program" => some program
  | "config" => some config
  | "pattern" => some pattern
  | "transcript" => some transcript
  | _ => none

/-- The setting of a letter. -/
def Setting.ofLetter? : Char → Option Setting
  | 'p' => some program
  | 'c' => some config
  | _ => none

/-- The switch of a name. -/
def Switch.ofName? : String → Option Switch
  | "verbose" => some verbose
  | "help" => some help
  | "json" => some json
  | "save-config" => some saveConfig
  | _ => none

/-- The switch of a letter. -/
def Switch.ofLetter? : Char → Option Switch
  | 'v' => some verbose
  | 'h' => some help
  | _ => none

/-- When transcripts are shown, by name. -/
def transcriptsOf? (name : Text) : Option TranscriptMode :=
  match String.ofList name with
  | "always" => some .always
  | "on-failure" => some .onFailure
  | "never" => some .never
  | _ => none

/-- Whether a setting can have a value. -/
def Setting.admits : Setting → Text → Bool
  | program, _ | pattern, _ => true
  | config, value => !value.isEmpty
  | transcript, value => (transcriptsOf? value).isSome

namespace Given

/-- Nothing given. -/
def nothing : Given := ⟨[], [], none⟩

/-- A setting is given a value. -/
def set (given : Given) (setting : Setting) (value : Text) : Except Stop Given :=
  if setting.admits value && (given.settings.lookup setting).isNone then
    .ok { given with settings := (setting, value) :: given.settings }
  else .error .misuse

/-- A switch is given. -/
def switchOn (given : Given) (switch : Switch) : Except Stop Given :=
  if switch = .help then .error .help
  else if given.switches.contains switch then .error .misuse
  else .ok { given with switches := switch :: given.switches }

/-- A path is given. -/
def setPath (given : Given) (usage : Usage) (path : Text) : Except Stop Given :=
  if usage.takesPath && given.path.isNone && !path.isEmpty then
    .ok { given with path := some path }
  else .error .misuse

end Given

/-! ### Reading words -/

/-- Whether a word can be the value of a setting that stands before it, or a path. -/
def isValue (word : Text) : Bool :=
  word.head? != some '-' || word = ['-']

/-- Reads letters behind a hyphen: what is given then, and the setting whose value is the next word
if it is still due. -/
def readLetters (usage : Usage) (given : Given) : Text → Except Stop (Given × Option Setting)
  | [] => .ok (given, none)
  | letter :: rest =>
    match Switch.ofLetter? letter, Setting.ofLetter? letter with
    | some switch, _ =>
      if usage.switches.contains switch then do readLetters usage (← given.switchOn switch) rest
      else .error .misuse
    | none, some setting =>
      if !usage.settings.contains setting then .error .misuse
      else
        match rest with
        | [] => .ok (given, some setting)
        | '=' :: value => return (← given.set setting value, none)
        | value => return (← given.set setting value, none)
    | none, none => .error .misuse

/-- Reads a name behind two hyphens, perhaps with a value behind an equals sign. -/
def readName (usage : Usage) (given : Given) (text : Text) :
    Except Stop (Given × Option Setting) :=
  let name := text.takeWhile (· != '=')
  let value := match text.dropWhile (· != '=') with
    | [] => none
    | _ :: value => some value
  match Switch.ofName? (String.ofList name), Setting.ofName? (String.ofList name) with
  | some switch, _ =>
    if usage.switches.contains switch && value.isNone then return (← given.switchOn switch, none)
    else .error .misuse
  | none, some setting =>
    if !usage.settings.contains setting then .error .misuse
    else
      match value with
      | some value => return (← given.set setting value, none)
      | none => .ok (given, some setting)
  | none, none => .error .misuse

/-- Reads a word that begins with a hyphen. -/
def readOption (usage : Usage) (given : Given) (word : Text) :
    Except Stop (Given × Option Setting) :=
  match word with
  | '-' :: '-' :: name => readName usage given name
  | '-' :: letters => readLetters usage given letters
  | _ => .error .misuse

/-- Reads the words behind a command; a setting before them may wait for its value. -/
def readWords (usage : Usage) (given : Given) (due : Option Setting) :
    List Text → Except Stop Given
  | [] => if due.isSome then .error .misuse else .ok given
  | word :: rest =>
    match due with
    | some setting =>
      if isValue word then do readWords usage (← given.set setting word) none rest
      else .error .misuse
    | none =>
      if word = ['-', '-'] then rest.foldlM (fun g path ↦ g.setPath usage path) given
      else if isValue word then do readWords usage (← given.setPath usage word) none rest
      else do
        let (given, due) ← readOption usage given word
        readWords usage given due rest

/-! ### Commands -/

/-- What every command takes. -/
def commonSwitches : List Switch := [.verbose, .help]

/-- What a command that selects scripts takes. -/
def selecting : Usage := ⟨[.config, .pattern], commonSwitches, true⟩

/-- What the command that runs scripts takes. -/
def running : Usage :=
  ⟨[.program, .config, .pattern, .transcript], .json :: .saveConfig :: commonSwitches, true⟩

/-- The names of the commands. -/
def commandNames : List String := ["run", "check", "list", "programs", "help"]

/-- The selection that was given. -/
def Given.selection (given : Given) : Selection :=
  ⟨given.path.map Path.mk, (given.settings.lookup .config).map Path.mk,
    given.settings.lookup .pattern⟩

/-- The choices that were given. -/
def Given.choices (given : Given) : Choices where
  program := given.settings.lookup .program
  json := given.switches.contains .json
  transcripts := ((given.settings.lookup .transcript).bind transcriptsOf?).getD .onFailure
  saving := given.switches.contains .saveConfig

/-- Reads a command and the words behind it, and says whether it was asked to be verbose. -/
def readCommand (name : String) (words : List Text) : Except Stop (Request × Bool) := do
  let read (usage : Usage) : Except Stop Given := readWords usage .nothing none words
  match name with
  | "run" =>
    let given ← read running
    return (.run given.selection given.choices, given.switches.contains .verbose)
  | "check" =>
    let given ← read selecting
    return (.check given.selection, given.switches.contains .verbose)
  | "list" =>
    let given ← read selecting
    return (.list given.selection, given.switches.contains .verbose)
  | "programs" =>
    let given ← read ⟨[], commonSwitches, false⟩
    return (.programs, given.switches.contains .verbose)
  | "help" =>
    match words with
    | [] => throw .help
    | [topic] => throw (if commandNames.contains (String.ofList topic) then .help else .misuse)
    | _ => throw .misuse
  | _ => throw .misuse

/-- Reads the words in front of a command, and the command. -/
def readLine (given : Given) : List Text → Except Stop (Request × Bool)
  | [] => .error .misuse
  | word :: rest =>
    if isValue word then do
      let (request, verbose) ← readCommand (String.ofList word) rest
      return (request, verbose || given.switches.contains .verbose)
    else if word = ['-', '-'] then .error .misuse
    else do
      let (given, _) ← readOption ⟨[], commonSwitches, false⟩ given word
      readLine given rest

/-- What some words, without the name of the program, come to. -/
def parse (words : List Text) : Reading :=
  match readLine .nothing words with
  | .ok (request, verbose) => .request request verbose
  | .error .help => .help
  | .error .misuse => .misuse

/-- Which events are logged. -/
def logDirective (verbose : Bool) : Text :=
  (if verbose then "lockstep=debug,warn" else "lockstep=warn").toList

end CommandLine

end Dialogue
