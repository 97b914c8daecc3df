import Dialogue.CommandLine
import Dialogue.Config.File
import Dialogue.Discovery
import Dialogue.Registry
import Dialogue.Run.Record
import Dialogue.Run.Schedule

/-!
# Sessions

A session is one use of the harness: it starts with a host, carries out one request, and ends with
the host as it is then, what was printed, and an exit status. Setting up can fail at several
points; what was printed and written before stays, and the complaint is marked as the configuration
says, once there is one.
-/

set_option autoImplicit false
set_option relaxedAutoImplicit false

namespace Dialogue

/-- Where a session stands. -/
structure Session where
  host : Host
  /-- What has been printed. -/
  output : Text
  /-- The marks of messages. -/
  marks : Marks
  /-- Whether colours are shown. -/
  colored : Bool
  deriving Inhabited

namespace Session

/-- A part of a session, which may fail and end it. -/
abbrev Act (α : Type) := ExceptT SetupError (StateM Session) α

/-! ### Parts -/

/-- Prints some lines. -/
def say (lines : List Text) : Act Unit :=
  modify fun session ↦ { session with output := session.output ++ Display.printed lines }

/-- Takes the result of something that may fail. -/
def take {α : Type} (result : Except SetupError α) : Act α :=
  ExceptT.mk (pure result)

/-- A configuration, where it is at home, and the file in which it is kept. -/
structure Origin where
  config : Config
  /-- The directory that its paths are relative to. -/
  home : Option Path
  file : Option Path
  deriving Repr, DecidableEq

/-- The configuration in a file that is given, or else in one that is found, or else the standard
one. A file that is found is kept up only if it has the usual name. -/
def originOf (host : Host) (given : Option Path) : Except SetupError Origin :=
  match given with
  | some path => do
    let located ← Config.load host path
    return ⟨located.config, some located.home, some path⟩
  | none => do
    match ← Config.discover host host.workingPath with
    | none => return ⟨.standard, none, none⟩
    | some located =>
      let file := located.home.child Config.fileName
      return ⟨located.config, some located.home, if host.isFile file then some file else none⟩

/-- Finds the configuration, with what was chosen otherwise, and uses its marks from then on. -/
def configure (selection : Selection) (program : Option Text) : Act Origin := do
  let origin ← take (originOf (← get).host selection.config)
  let config := origin.config.withOverrides ⟨program, none, selection.pattern⟩
  modify fun session ↦ { session with marks := config.marks }
  return { origin with config := config }

/-- Scripts, and the directory that they belong to. -/
structure Suite where
  directory : Path
  scripts : List Path
  deriving Repr, DecidableEq

/-- The directory of a file. -/
def directoryOf (file : Path) : Path :=
  match file.parent? with
  | some ⟨[]⟩ | none => ⟨['.']⟩
  | some parent => parent

/-- The scripts that are selected: a single one, those in a directory that is given, or those in the
directory of the configuration. -/
def suiteOf (host : Host) (origin : Origin) (given : Option Path) : Except SetupError Suite :=
  match given with
  | some path =>
    if host.isFile path then .ok ⟨directoryOf path, [path]⟩
    else return ⟨path, ← Discovery.scripts host path origin.config⟩
  | none => do
    let directory := origin.config.searchDirectory host.workingPath origin.home
    return ⟨directory, ← Discovery.scripts host directory origin.config⟩

/-- Finds the scripts that are selected. -/
def select (origin : Origin) (given : Option Path) : Act Suite := do
  take (suiteOf (← get).host origin given)

/-- The configuration that is saved: a directory that was given becomes the directory of the
scripts. -/
def savedConfig (host : Host) (config : Config) (given : Option Path) : Config :=
  match given.filter host.isDirectory with
  | some directory =>
    { config with testSources := some ((host.canonical? directory).getD directory) }
  | none => config

/-- The file in which a configuration is saved: its own, or one in the working directory. -/
def Origin.target (origin : Origin) : Path :=
  origin.file.getD ⟨Config.fileName⟩

/-- Saves the configuration. -/
def save (origin : Origin) (given : Option Path) : Act Unit := do
  let session ← get
  let host ← take ((savedConfig session.host origin.config given).save session.host origin.target)
  modify fun session ↦ { session with host := host }
  say ["Saved config to ".toList ++ origin.target.text]

/-- The program of a configuration, and its name. -/
def programOf (host : Host) (config : Config) : Except SetupError (Text × Program) :=
  match config.program with
  | none => .error .noProgram
  | some name => do
    let options : Registry.Options :=
      ⟨config.programArguments, some (.ofSeconds config.timeout)⟩
    return (name, ← Registry.builtin.resolve host name options)

/-! ### Running scripts -/

/-- What is shown while scripts are run. -/
def eventLines (display : Display) : Run.Event → List Text
  | .started name _ index total => [display.startLine name index total]
  | .finished report => display.reportLines report

/-- What is printed about a run of a schedule. -/
def runLines (display : Display) (name : Text) (queued : Nat) (events : List Run.Event)
    (summary : Summary) : List Text :=
  let announced := "Running ".toList ++ Text.ofNat queued ++ " script(s) against '".toList ++ name
    ++ ['\'']
  [[], announced, []] ++ events.flatMap (eventLines display) ++ display.summaryLines summary

/-- What is printed about a run of a schedule, for machines or for people. -/
def shownLines (display : Display) (choices : Choices) (name : Text) (queued : Nat)
    (events : List Run.Event) (summary : Summary) : List Text :=
  if choices.json then [summary.toJson.render]
  else runLines display name queued events summary

/-- Sets up a run of a suite: finds the program, and makes the directory of the logs. -/
def setUp (config : Config) (suite : Suite) : Act (Text × Program) := do
  let session ← get
  let named ← take (programOf session.host config)
  let logs := config.logDirectoryFor suite.directory
  let (made, host) := session.host.attemptDirectories logs
  modify fun session ↦ { session with host := host }
  take (made.mapError (.noLogDirectory logs))
  return named

/-- The schedule of a suite for a program. -/
def scheduleOf (host : Host) (config : Config) (suite : Suite) (program : Program) : Run.Schedule :=
  let logs := config.logDirectoryFor suite.directory
  suite.scripts.foldl (fun schedule path ↦ (schedule.load host path).2)
    (Run.Schedule.empty program ⟨config.marks, some logs⟩)

/-- Runs the scripts of a suite. -/
def runSuite (config : Config) (suite : Suite) (choices : Choices) : Act ExitStatus := do
  let (name, program) ← setUp config suite
  let session ← get
  let schedule := scheduleOf session.host config suite program
  let (events, summary, host) := schedule.run session.host
  modify fun session ↦ { session with host := host }
  let display := { Display.standard with
    transcripts := choices.transcripts
    colored := session.colored
    marks := config.marks }
  say (shownLines display choices name schedule.queue.length events summary)
  return summary.exitStatus

/-- Runs the scripts that are selected. -/
def run (selection : Selection) (choices : Choices) : Act ExitStatus := do
  let origin ← configure selection choices.program
  let suite ← select origin selection.path
  if choices.saving then save origin selection.path
  runSuite origin.config suite choices

/-! ### Checking and listing scripts -/

/-- What is printed about a file that was read as a script. -/
def checkLines (path : Path) : Except ScriptError Script → List Text
  | .ok script =>
    let arguments := if script.argumentList.isEmpty then []
      else ", args: ".toList ++ Text.joinWith [' '] script.argumentList
    ["  ".toList ++ Color.green.paint ['✓'] ++ ' ' :: path.text ++ " (".toList
      ++ Text.ofNat script.inputCount ++ " input(s), ".toList ++ Text.ofNat script.outputCount
      ++ " output(s)".toList ++ arguments ++ [')']]
  | .error error =>
    ["  ".toList ++ Color.red.paint ['✗'] ++ ' ' :: path.text, "    └─ ".toList ++ error.message]

/-- Whether a file that was read is no script. -/
def isMalformed : Except ScriptError Script → Bool
  | .ok _ => false
  | .error _ => true

/-- Reads the scripts that are selected. -/
def check (selection : Selection) : Act ExitStatus := do
  let origin ← configure selection none
  let suite ← select origin selection.path
  let host := (← get).host
  let read := suite.scripts.map fun path ↦ (path, Script.load host path)
  let malformed := read.countP fun (_, result) ↦ isMalformed result
  say ([[]] ++ read.flatMap (fun (path, result) ↦ checkLines path result) ++ [[],
    "Checked ".toList ++ Text.ofNat read.length ++ " script(s), ".toList ++ Text.ofNat malformed
      ++ " malformed".toList])
  return if malformed = 0 then .success else .failures

/-- Lists the scripts that are selected. -/
def list (selection : Selection) : Act ExitStatus := do
  let origin ← configure selection none
  let suite ← select origin selection.path
  say ([[], "Discovered ".toList ++ Text.ofNat suite.scripts.length ++ " script(s) in ".toList
      ++ suite.directory.text ++ [':'], []]
    ++ suite.scripts.map (fun path ↦ "  ".toList ++ path.text) ++ [[]])
  return .success

/-- Lists the programs inside the harness. -/
def programs : Act ExitStatus := do
  say ([[], "Builtin programs:".toList]
    ++ Registry.builtin.names.map (fun name ↦ "  - ".toList ++ name)
    ++ [[], "Any other name is looked up as an executable on PATH.".toList, []])
  return .success

/-! ### A whole session -/

/-- How a session ended. -/
structure Ending where
  host : Host
  output : Text
  /-- Why no script was run, if so. -/
  complaint : Option Text
  status : ExitStatus
  deriving Inhabited

/-- A session that begins. -/
def start (host : Host) (colored : Bool) : Session :=
  ⟨host, [], .standard, colored⟩

/-- Carries out a request. -/
def perform : Request → Act ExitStatus
  | .run selection choices => run selection choices
  | .check selection => check selection
  | .list selection => list selection
  | .programs => programs

/-- The line about a failure: its message, and its cause once more. -/
def complaintLine (marks : Marks) (error : SetupError) : Text :=
  let cause := match error.cause? with
    | some cause => ": ".toList ++ cause
    | none => []
  marks.errorLine (error.message ++ cause)

/-- A session with one request. -/
def conduct (host : Host) (colored : Bool) (request : Request) : Ending :=
  match (perform request).run.run (start host colored) with
  | (.ok status, session) => ⟨session.host, session.output, none, status⟩
  | (.error error, session) =>
    ⟨session.host, session.output, some (complaintLine session.marks error), .setupFailure⟩

end Session

end Dialogue
