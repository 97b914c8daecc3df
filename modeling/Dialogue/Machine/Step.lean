import Dialogue.Executable
import Dialogue.Machine.Builtin.Flow
import Dialogue.Machine.Builtin.Names
import Dialogue.Machine.Builtin.Signals
import Dialogue.Machine.Builtin.Variables
import Dialogue.Tool.Table

/-!
# Steps of a process

A process goes on by one task at a time (`Machine.step`). A step changes the process and the
machine, shows something at the terminal, ends the process, or finds that there is nothing to be
done yet. A command goes through stages: its words are expanded, its streams are redirected, its
assignments are made, and then it is performed, as a function, as a command of the shell or as a
tool.
-/

set_option autoImplicit false
set_option relaxedAutoImplicit false

namespace Dialogue.Machine

open Dialogue.Shell

/-- What a process waits for. -/
inductive Need where
  | terminal
  /-- Until a time. -/
  | time (time : Nat)
  /-- For other processes. -/
  | others
  deriving Repr, DecidableEq, Inhabited

/-- What comes of a step. -/
inductive Outcome where
  | goesOn (process : Process) (machine : Machine)
  | prints (text : Text) (process : Process) (machine : Machine)
  | waits (need : Need) (process : Process) (machine : Machine)
  | ends (status : Nat) (machine : Machine)

/-! ### Shells within a process -/

/-- What is kept of the traps in a shell that has been started by another one: what is ignored. -/
def ignoredOnly (traps : List (Text × Text)) : List (Text × Text) :=
  traps.filter fun (name, action) ↦ action.isEmpty && name != "EXIT".toList

/-- The state of a shell that has been started by another one. -/
def subshellState (state : State) : State :=
  { state with traps := ignoredOnly state.traps, children := [] }

/-- Runs a command in a shell of its own, within the process. -/
def Process.enterShell (process : Process) (command : Command) (tested : Bool) : Process :=
  { process.withState (subshellState process.state) with
    tasks := .run command tested :: .finish :: .endShell ⟨process.state, process.streams⟩
      :: .check tested :: process.tasks }

/-- Ends the shell that is running because of a signal, and the process if there is no other one. -/
def Process.die (process : Process) (signal : Nat) : Process :=
  (Process.dropUpTo (fun
    | .endShell _ | .endOutput _ _ _ _ => true
    | _ => false) process process.tasks).ended (Signal.status signal)

/-- The process and the machine with a signal sent to the process, in the course of its task. -/
def act (signal : Nat) (process : Process) (machine : Machine) : Outcome :=
  match process.state.traps.lookup (Signal.name signal) with
  | some [] => .goesOn process machine
  | some action =>
    .goesOn (process.push
      [.script (.start action 1 true process.state.aliases) .whole false false,
        .endTrap process.state.status]) machine
  | none =>
    if Signal.isHarmless signal then .goesOn process machine
    else .goesOn (process.die signal) machine

/-! ### Starting shells -/

/-- The value of a variable with which a shell starts, and is not passed on. -/
def standardVariables : List (String × String) :=
  [("IFS", " \t\n"), ("OPTIND", "1"), ("PS1", "# "), ("PS2", "> "), ("PS4", "+ ")]

/-- The variables with which a shell starts. -/
def firstVariables (environment : List (Text × Text)) (directory : Location) (parent : Nat) :
    List (Text × Variable) :=
  let given := environment.filter fun (name, _) ↦
    isName name && !(["IFS", "OPTIND", "PWD"].contains (String.ofList name))
  let own := standardVariables.filter fun (name, _) ↦
    !given.any fun (other, _) ↦ other == name.toList
  given.map (fun (name, value) ↦ (name, (⟨some value, true, false⟩ : Variable)))
    ++ own.map (fun (name, value) ↦ (name.toList, ⟨some value.toList, false, false⟩))
    ++ [("PWD".toList, ⟨some (pathText directory), true, false⟩),
      ("PPID".toList, ⟨some (Text.ofNat parent), false, false⟩)]

/-- The state of a shell that has just been started. -/
def firstState (name : Text) (environment : List (Text × Text)) (directory : Location)
    (number parent mask : Nat) : State where
  name := name
  arguments := []
  known := firstVariables environment directory parent
  functions := []
  aliases := []
  options := []
  status := 0
  expanded := 0
  directory := directory
  traps := []
  loops := 0
  locals := []
  number := number
  background := none
  children := []
  line := 0
  within := []
  optionLetters := 0
  mask := mask

/-- What a shell does that is called with some words: its state and its tasks. -/
def shellTasks (machine : Machine) (state : State) (words : List Text) : State × List Task :=
  let refused (message : Text) : State × List Task :=
    (state.ended 2, [.write 2 (Process.complaintLine state [] message)])
  let whole (text : Text) (state : State) : State × List Task :=
    (state, [.script (.start text 1 true []) .whole false false, .finish])
  match Settings.read true [] words with
  | .error message => refused message
  | .ok settings =>
    let state := { state with options := settings.options }
    if settings.command then
      match settings.rest with
      | [] => refused "-c requires an argument".toList
      | text :: more =>
        whole text { state with name := more.headD state.name, arguments := more.drop 1 }
    else
      match settings.rest with
      | file :: more =>
        if settings.options.contains 's' then
          ({ state with arguments := settings.rest },
            [.script (.start [] 1 false []) .input false false, .finish])
        else
          match (machine.host state.directory).readBytes ⟨Text.widen file⟩ with
          | .ok bytes => whole (Text.ofBytes bytes) { state with name := file, arguments := more }
          | .error .isADirectory => whole [] { state with name := file, arguments := more }
          | .error error =>
            refused ("cannot open ".toList ++ file ++ ": ".toList ++ openingFlaw error)
      | [] =>
        ({ state with options := switchOption true 's' state.options },
          [.script (.start [] 1 false []) .input false false, .finish])

/-! ### Tools -/

/-- What running a command comes to: the tool, and all of its arguments. A file that is neither a
tool nor names an interpreter is run by the shell. -/
def resolveTool (host : Host) (words : List Text) : Except FileError (Tool × List Text) :=
  match words with
  | [] => .error .notFound
  | name :: arguments =>
    match host.command (Text.widen name) with
    | .ok (tool, leading) => .ok (tool, leading.map Text.narrow ++ arguments)
    | .error .notExecutable =>
      .ok (⟨"sh"⟩, (filePath? host name).getD name :: arguments)
    | .error error => .error error

/-- Starts a tool within a process, in place of what it was doing: a shell, or a job. -/
def startTool (tool : Tool) (name : Text) (arguments : List Text)
    (environment : List (Text × Text)) (process : Process) (machine : Machine) :
    Process × Machine :=
  if tool.isShell then
    let state := firstState name environment process.state.directory machine.nextNumber
      process.number process.state.mask
    let state := { state with traps := ignoredOnly process.state.traps }
    let (state, tasks) := shellTasks machine state arguments
    ({ process with state := state, tasks := tasks ++ process.tasks },
      { machine with
        nextNumber := machine.nextNumber + 1
        shells := (machine.nextNumber, process.number) :: machine.shells })
  else
    (process.push [.work (Tool.job tool.name name arguments environment)], machine)

/-- Starts a tool within a process, which goes on afterwards as it was. -/
def enterTool (tool : Tool) (name : Text) (arguments : List Text)
    (environment : List (Text × Text)) (process : Process) (machine : Machine) :
    Process × Machine :=
  startTool tool name arguments environment
    (process.push (if tool.isShell then [.endShell ⟨process.state, process.streams⟩]
      else [.restoreStreams process.streams])) machine

/-- What is said about a command that cannot be run, and its status. A name of directories only
counts as that of no command. -/
def runningFlaw (host : Host) (name : Text) (error : FileError) : Text × Nat :=
  let isFile := name.contains '/'
    || host.searchPath.any fun directory ↦ host.isFile (directory.child (Text.widen name))
  match error with
  | .notFound | .notADirectory =>
    if name.isEmpty then (FileError.notPermitted.wording, 127) else ("not found".toList, 127)
  | .tooManyLinks | .nameTooLong => (error.wording, 127)
  | _ => (error.wording, if isFile then 126 else 127)

/-- Runs a tool for the shell. -/
def runExternal (words : List Text) (process : Process) (machine : Machine) :
    Process × Machine :=
  let name := words.headD []
  match resolveTool (machine.hostOf process) words with
  | .ok (tool, arguments) =>
    enterTool tool name arguments process.state.environment process machine
  | .error error =>
    let (message, status) := runningFlaw (machine.hostOf process) name error
    ((process.ended status).complain (name ++ ": ".toList ++ message), machine)

/-- Gives the process over to a tool. -/
def replaceShell (words : List Text) (process : Process) (machine : Machine) :
    Process × Machine :=
  let name := words.headD []
  match resolveTool (machine.hostOf process) words with
  | .ok (tool, arguments) =>
    let streams := process.streams
    let outside := Process.dropUpTo Process.endsShell process process.tasks
    startTool tool name arguments process.state.environment
      { outside with streams := streams, state := process.state, tasks := outside.tasks.drop 1 }
      machine
  | .error error =>
    let (message, status) := runningFlaw (machine.hostOf process) name error
    let process := process.giveUpOf "exec".toList (name ++ ": ".toList ++ message)
    (process.ended status, machine)

/-! ### Performing a command -/

/-- The command of the shell of a name. -/
def builtin? (name : String) : Option Builtin :=
  match name with
  | ":" | "true" => some (.settled 0)
  | "false" => some (.settled 1)
  | "echo" => some .echo
  | "printf" => some .printf
  | "test" => some (.test false)
  | "[" => some (.test true)
  | "cd" | "chdir" => some .cd
  | "pwd" => some .pwd
  | "umask" => some .umask
  | "export" => some .export
  | "readonly" => some .readonly
  | "local" => some .local
  | "unset" => some .unset
  | "set" => some .set
  | "shift" => some .shift
  | "getopts" => some .getopts
  | "read" => some .read
  | "alias" => some .alias
  | "unalias" => some .unalias
  | "type" => some .type
  | "trap" => some .trap
  | "kill" => some .kill
  | "wait" => some .wait
  | "jobs" => some .jobs
  | "hash" => some .hash
  | "times" => some .times
  | "break" => some (.leaveLoops "break" false)
  | "continue" => some (.leaveLoops "continue" true)
  | "return" => some .return
  | "exit" => some .exit
  | "eval" => some .eval
  | "." => some .source
  | "ulimit" => some .ulimit
  | "fg" | "bg" => some (.resume name)
  | _ => none

/-- How many functions may run within each other. -/
def functionDepth : Nat := 1000

/-- Calls a function. -/
def Process.callFunction (process : Process) (body : Command) (arguments : List Text)
    (tested : Bool) : Process :=
  let state := process.state
  if functionDepth ≤ state.locals.length then
    process.giveUp ("Maximum function recursion depth (".toList ++ Text.ofNat functionDepth
      ++ ") reached".toList)
  else
    { process with
      state := { state with arguments := arguments, loops := 0, locals := [] :: state.locals }
      tasks := .run body tested :: .endFunction state.arguments state.loops :: process.tasks }

/-- Performs a command by its words. The name of a command of the shell may stand in front, which
looks for no function, and lets no error end the shell. -/
def performWords (words : List Text) (plain : Bool) (process : Process) (machine : Machine) :
    Process × Machine :=
  match words with
  | [] => (process.ended process.state.expanded, machine)
  | name :: arguments =>
    let text := String.ofList name
    let special := specialNames.contains text
    match if special || !plain then none else process.state.functions.lookup name with
    | some body => (process.callFunction body arguments process.tested, machine)
    | none =>
      if text == "exec" then
        match arguments with
        | [] => (process.ended 0, machine)
        | words => replaceShell words process machine
      else
        match builtin? text with
        | some builtin => builtin (plain && special) arguments process machine
        | none => runExternal words process machine

/-- Performs a command by its words, behind those that only say how. -/
def performUpTo (words : List Text) (plain : Bool) (process : Process) (machine : Machine) :
    Nat → Process × Machine
  | 0 => (process, machine)
  | depth + 1 =>
    let isFunction := plain && (process.state.functions.lookup "command".toList).isSome
    match words with
    | name :: arguments =>
      if name != "command".toList || isFunction then performWords words plain process machine
      else
        match cutOptions "pvV" arguments with
        | .error message => (process.wrong false "command" message, machine)
        | .ok (options, rest) =>
          if options.any fun (c, _) ↦ c == 'V' then tellMeaning true rest process machine
          else if options.any fun (c, _) ↦ c == 'v' then tellMeaning false rest process machine
          else if rest.isEmpty then (process.ended 0, machine)
          else performUpTo rest false process machine depth
    | [] => performWords words plain process machine

/-- Whether a command keeps the streams that it was given. -/
def keepsStreams (texts : List Text) : Bool :=
  texts == ["exec".toList] || texts == ["command".toList, "exec".toList]

/-- Performs a command. -/
def perform (call : Call) (process : Process) (machine : Machine) : Process × Machine :=
  let later : List Task :=
    (match call.before with
      | some (entry :: before) => [.restoreVariables (entry :: before)]
      | _ => [])
    ++ (if call.isRedirected && !keepsStreams call.texts then [.restoreStreams call.streams]
      else [])
    ++ (if call.tested then [] else [.check false])
  let process := { process with tasks := later ++ process.tasks, tested := call.tested }
  performUpTo call.texts true process machine (call.texts.length + 1)

/-! ### Assignments -/

/-- The line that shows a command before it is performed. -/
def traceLine (state : State) (call : Call) : Text :=
  (state.value? "PS4".toList).getD [] ++ Text.joinWith [' '] (call.written.reverse ++ call.texts)
    ++ ['\n']

/-- Makes the next assignment of a command, or performs it. -/
def assign (call : Call) (process : Process) (machine : Machine) : Process × Machine :=
  match call.assignments with
  | (name, word) :: rest =>
    (process.push [.expand (.start [word]) (.assignment name { call with assignments := rest })],
      machine)
  | [] =>
    if process.state.has 'x' && !(call.texts.isEmpty && call.written.isEmpty) then
      (process.push [.restoreStreams call.streams, .write 2 (traceLine process.state call),
        .restoreStreams process.streams, .perform call], machine)
    else perform call process machine

/-- Assigns a value for a command, or for good. -/
def assignValue (name value : Text) (call : Call) (process : Process) (machine : Machine) :
    Process × Machine :=
  if process.state.isFixed name then
    ((process.push [.assign call]).giveUp (fixedName name), machine)
  else
    let call := { call with written := (name ++ '=' :: value) :: call.written }
    match call.before with
    | none => assign call (process.withState (process.state.set name value)) machine
    | some before =>
      let known := before.any fun (other, _) ↦ other == name
      let before := if known then before
        else (name, process.state.known.lookup name) :: before
      assign { call with before := some before }
        (process.withState (process.state.put name ⟨some value, true, false⟩)) machine

/-! ### Redirections -/

/-- Redirects a stream to an expanded target, or tells why that cannot be done. -/
def redirect (redirection : Redirection) (target : Text) (process : Process) (machine : Machine) :
    Except Text (Process × Machine) :=
  let .mk stream direction _ := redirection
  let lead (endpoint : Nat) (machine : Machine) : Except Text (Process × Machine) :=
    .ok ({ process with streams := setStream stream endpoint process.streams }, machine)
  let opened (access : Access) : Except Text (Process × Machine) :=
    match machine.openFile process target access with
    | .ok (endpoint, machine) => lead endpoint machine
    | .error error =>
      .error (if access == .read then
          "cannot open ".toList ++ target ++ ": ".toList ++ openingFlaw error
        else "cannot create ".toList ++ target ++ ": ".toList ++ makingFlaw error)
  match direction with
  | .read => opened .read
  | .write =>
    if process.state.has 'C'
        && (machine.host process.state.directory).isFile ⟨Text.widen target⟩
        && !("/dev/".toList.isPrefixOf target) then
      .error ("cannot create ".toList ++ target ++ ": ".toList ++ FileError.alreadyExists.wording)
    else opened .write
  | .overwrite => opened .write
  | .append => opened .append
  | .readWrite => opened .readWrite
  | .duplicate =>
    if target == ['-'] then
      .ok ({ process with streams := closeStream stream process.streams }, machine)
    else
      match Text.toNat? 10 target with
      | none => .error "Bad fd number".toList
      | some other =>
        match process.streams.lookup other with
        | some endpoint => lead endpoint machine
        | none => .error (Text.ofNat other ++ ": ".toList ++ FileError.noStream.wording)
  | .document =>
    let number := machine.pipes.size
    let machine := { machine with pipes := machine.pipes.push (.holding target) }
    let (endpoint, machine) := machine.addEndpoint (.pipeOutput number)
    lead endpoint machine

/-- Redirects streams one after the other. What was redirected before one that fails is told as
well. -/
def redirectAll (process : Process) (machine : Machine) :
    List (Redirection × Text) → Process × Machine × Option Text
  | [] => (process, machine, none)
  | (redirection, target) :: rest =>
    match redirect redirection target process machine with
    | .ok (process, machine) => redirectAll process machine rest
    | .error message => (process, machine, some message)

/-! ### Expanded words -/

/-- The texts that an expanded word stands for. -/
def wordTexts (machine : Machine) (state : State) (pieces : List Piece) : List Text :=
  match pieces with
  | [.quoted text] => [text]
  | _ =>
    let fields := fieldsFrom state.separators none pieces
    if state.has 'f' then fields.map markText
    else fields.flatMap (fieldTexts (machine.host state.directory))

/-- Goes on to the next branch of a case distinction that has a pattern. -/
def nextBranch (subject : Text) (tested : Bool) (process : Process) :
    List (List Word × Command) → Process
  | [] => process.ended 0
  | ([], _) :: branches => nextBranch subject tested process branches
  | (word :: others, body) :: branches =>
    process.push [.expand (.start [word]) (.pattern subject others body branches tested)]

/-- Runs a command that may be none. -/
def Process.runMaybe (process : Process) (command : Command) (tested : Bool) : Process :=
  match command with
  | .nothing => process.ended 0
  | _ => process.push [.run command tested]

/-- Puts expanded words to their use. -/
def reach (aim : Aim) (results : List (List Piece)) (process : Process) (machine : Machine) :
    Process × Machine :=
  let state := process.state
  match aim with
  | .simple line assignments count redirections tested =>
    let texts := (results.take count).flatMap (wordTexts machine state)
    let special := specialNames.contains (String.ofList (texts.headD []))
    let call : Call :=
      { line := line
        texts := texts
        assignments := assignments
        written := []
        before := if texts.isEmpty || special then none else some []
        streams := process.streams
        isRedirected := !redirections.isEmpty
        tested := tested }
    if redirections.isEmpty then assign call process machine
    else
      let targets := redirections.zip ((results.drop count).map wordText)
      match redirectAll process machine targets with
      | (process, machine, none) => assign call process machine
      | (process, machine, some message) =>
        if special then ((process.push [.assign call]).giveUp message, machine)
        else
          (((process.ended 2).push [.restoreStreams call.streams, .check tested]).complain message,
            machine)
  | .assignment name call => assignValue name (wordText results.flatten) call process machine
  | .targets _ command redirections tested =>
    let streams := process.streams
    match redirectAll process machine (redirections.zip (results.map wordText)) with
    | (process, machine, none) =>
      (process.push [.run command tested, .restoreStreams streams], machine)
    | (process, machine, some message) =>
      (((process.ended 2).push [.restoreStreams streams]).complain message, machine)
  | .each _ name body tested =>
    let values := results.flatMap (wordTexts machine state)
    (process.withState { state with
        loops := state.loops + 1, status := if values.isEmpty then 0 else state.status }
      |>.push [.eachNext name values body tested], machine)
  | .subject _ branches tested =>
    (nextBranch (wordText results.flatten) tested process branches, machine)
  | .pattern subject others body branches tested =>
    if matchesPattern (wordPattern results.flatten) subject then
      (process.runMaybe body tested, machine)
    else (nextBranch subject tested process ((others, body) :: branches), machine)

/-- Starts a command whose output is part of a word. -/
def capture (command : Command) (quoted : Bool) (expansion : Expansion) (aim : Aim)
    (process : Process) (machine : Machine) : Process × Machine :=
  let ((reader, writer, pipe), machine) := machine.addPipe (.empty false)
  let saved : Saved := ⟨process.state, process.streams⟩
  ({ process.withState (subshellState process.state) with
      streams := setStream 1 writer process.streams
      tasks := .run command false :: .finish
        :: .endOutput saved ⟨pipe, reader, quoted⟩ expansion aim :: process.tasks },
    machine)

/-- Goes on with an expansion. -/
def expand (expansion : Expansion) (aim : Aim) (process : Process) (machine : Machine) :
    Process × Machine :=
  match expansion.advance process.state with
  | .goesOn expansion state => ((process.withState state).push [.expand expansion aim], machine)
  | .finished results state => reach aim results (process.withState state) machine
  | .needs command quoted expansion state =>
    capture command quoted expansion aim (process.withState state) machine
  | .fails message => ((process.push [.expand expansion aim]).giveUp message, machine)
  | .overflows => (process.die Signal.calculation, machine)

/-! ### Commands -/

/-- The streams of the commands of a pipeline: of each one, where it reads if not where the pipeline
does, and where it writes. -/
def pipelineStreams (input : Option Nat) (machine : Machine) :
    List Command → List (Command × Option Nat × Option Nat) × Machine
  | [] => ([], machine)
  | [last] => ([(last, input, none)], machine)
  | command :: rest =>
    let ((reader, writer, _), machine) := machine.addPipe (.empty true)
    let (others, machine) := pipelineStreams (some reader) machine rest
    ((command, input, some writer) :: others, machine)

/-- Starts a process for a command: its number. -/
def startProcess (process : Process) (streams : Streams) (state : State) (command : Command)
    (tested : Bool) (machine : Machine) : Nat × Machine :=
  machine.spawn
    { process with
      parent := process.number
      streams := streams
      state := state
      tasks := [.run command tested, .finish] }

/-- Starts the processes of a pipeline: their numbers. -/
def startPipeline (process : Process) (tested : Bool) (machine : Machine) :
    List (Command × Option Nat × Option Nat) → List Nat × Machine
  | [] => ([], machine)
  | (command, input, output) :: rest =>
    let redirected (stream : Nat) (endpoint : Option Nat) (streams : Streams) : Streams :=
      match endpoint with
      | some endpoint => setStream stream endpoint streams
      | none => streams
    let streams := redirected 1 output (redirected 0 input process.streams)
    let (number, machine) := startProcess process streams (subshellState process.state) command
      tested machine
    let (others, machine) := startPipeline process tested machine rest
    (number :: others, machine)

/-- The commands in the background with one more. It takes the first place that is free, or that of
a command that has ended and was waited for. -/
def withChild (number parts : Nat) (machine : Machine) (children : List Background) :
    List Background :=
  let isOver (child : Background) : Bool :=
    child.isKnown && (machine.statusOf? child.process).isSome
  let places := (List.range (children.length + 1)).map (· + 1)
  let place := (places.find? fun place ↦
    children.all fun child ↦ child.place != place || isOver child).getD (children.length + 1)
  ⟨place, number, parts, false⟩ :: children.filter fun child ↦ child.place != place

/-- Starts a command in the background. -/
def startBackground (process : Process) (command : Command) (machine : Machine) :
    Process × Machine :=
  let (nowhere, machine) := machine.addEndpoint .nowhere
  let state := subshellState process.state
  let ignored := [("INT".toList, []), ("QUIT".toList, [])]
  let (number, machine) := startProcess process (setStream 0 nowhere process.streams)
    { state with traps := ignored ++ state.traps } command false machine
  let parts := match command with
    | .pipeline commands => commands.length
    | _ => 1
  (process.withState { process.state with
    background := some number
    children := withChild number parts machine process.state.children
    status := 0 }, machine)

/-- Runs a command, or begins to. -/
def run (command : Command) (tested : Bool) (process : Process) (machine : Machine) :
    Process × Machine :=
  let state := process.state
  match command with
  | .nothing => (process, machine)
  | .simple line assignments words redirections =>
    let targets := redirections.map fun (.mk _ _ target) ↦ target
    expand (.start (words ++ targets)) (.simple line assignments words.length redirections tested)
      (process.withState { state with line := line, expanded := 0 }) machine
  | .sequence first second => (process.push [.run first tested, .run second tested], machine)
  | .both first second => (process.push [.run first true, .second true second tested], machine)
  | .either first second => (process.push [.run first true, .second false second tested], machine)
  | .negation inner => (process.push [.run inner true, .negate], machine)
  | .pipeline commands =>
    let (parts, machine) := pipelineStreams none machine commands
    let (numbers, machine) := startPipeline process tested machine parts
    (process.push [.await numbers, .check tested], machine)
  | .background inner => startBackground process inner machine
  | .redirected line inner redirections =>
    let targets := redirections.map fun (.mk _ _ target) ↦ target
    expand (.start targets) (.targets line inner redirections tested)
      (process.withState { state with line := line }) machine
  | .subshell inner => (process.enterShell inner tested, machine)
  | .choice condition positive negative =>
    (process.push [.run condition true, .choose positive negative tested], machine)
  | .loop negated condition body =>
    (process.withState { state with loops := state.loops + 1 }
      |>.push [.run condition true, .loopTest negated condition body tested 0], machine)
  | .each line name words body =>
    (process.withState { state with line := line }
      |>.push [.expand (.start words) (.each line name body tested)], machine)
  | .cases line word branches =>
    (process.withState { state with line := line }
      |>.push [.expand (.start [word]) (.subject line branches tested)], machine)
  | .function name body =>
    let others := state.functions.filter fun (other, _) ↦ other ≠ name
    (process.withState { state with functions := (name, body) :: others, status := 0 }, machine)

/-- Reads and runs the next commands of a text. A blank line changes nothing. -/
def runScript (scan : Scan) (origin : Origin) (started tested : Bool) (process : Process)
    (machine : Machine) : Outcome :=
  let more (scan : Scan) : Outcome :=
    match machine.read process 0 false with
    | .text text machine =>
      .goesOn (process.push
        [.script { scan with rest := scan.rest ++ text } origin started tested]) machine
    | .finish | .refused _ =>
      .goesOn (process.push [.script { scan with complete := true } origin started tested]) machine
    | .blocked onTerminal =>
      .waits (if onTerminal then .terminal else .others)
        (process.push [.script scan origin started tested]) machine
  let waitsForText := origin == .input && !scan.complete
  if waitsForText && !scan.rest.contains '\n' then more scan
  else
    match Command.next? { scan with aliases := process.state.aliases } with
    | .ok none => .goesOn (if started then process else process.ended 0) machine
    | .ok (some (.nothing, next)) =>
      .goesOn (process.push [.script next origin started tested]) machine
    | .ok (some (command, next)) =>
      if process.state.has 'n' then
        .goesOn (process.push [.script next origin started tested]) machine
      else
        .goesOn (process.push [.run command tested, .script next origin true tested]) machine
    | .error flaw =>
      if waitsForText && flaw.unfinished then more scan
      else
        let process := process.withState { process.state with line := flaw.line }
        .goesOn (process.giveUp ("Syntax error: ".toList ++ flaw.message)) machine

/-! ### Jobs -/

/-- Writes a text for a task, which is taken up again if there is no room. -/
def writeFor (task : Task) (stream : Nat) (text : Text) (process : Process) (machine : Machine)
    (next : Option FileError → Process) : Outcome :=
  match machine.write process stream text with
  | .done machine => .goesOn (next none) machine
  | .shown => .prints text (next none) machine
  | .blocked => .waits .others (process.push [task]) machine
  | .refused error => .goesOn (next (some error)) machine

/-- Whether a process ignores a signal. -/
def ignores (process : Process) (signal : Nat) : Bool :=
  process.state.traps.lookup (Signal.name signal) == some []

/-- The least number above two that no stream of a process has, among some. -/
def freeStream (streams : Streams) : Nat :=
  ((List.range (streams.length + 4)).find? fun n ↦ 2 < n && (streams.lookup n).isNone).getD 3

/-- The files with the directories of an environment in which commands are looked for. -/
def hostFor (environment : List (Text × Text)) (process : Process) (machine : Machine) : Host :=
  let directories := (environment.lookup "PATH".toList).getD "/bin:/usr/bin".toList
  { machine.host process.state.directory with
    searchPath := (Text.splitOn ':' directories).map fun directory ↦
      ⟨if directory.isEmpty then ['.'] else Text.widen directory⟩ }

/-- Goes on with a job. -/
def work (job : Job) (process : Process) (machine : Machine) : Outcome :=
  let goOn (job : Job) (machine : Machine) : Outcome :=
    .goesOn (process.push [.work job]) machine
  match job with
  | .ends status => .goesOn (process.ended status) machine
  | .rests => .waits .others (process.push [.work job]) machine
  | .writes stream text next =>
    writeFor (.work job) stream text process machine fun error ↦
      if error == some .broken && !ignores process Signal.pipe then
        process.ended (Signal.status Signal.pipe)
      else process.push [.work (next error)]
  | .reads stream next =>
    match machine.read process stream false with
    | .text text machine => goOn (next (.text text)) machine
    | .finish => goOn (next .finish) machine
    | .refused error => goOn (next (.refused error)) machine
    | .blocked onTerminal =>
      .waits (if onTerminal then .terminal else .others) (process.push [.work job]) machine
  | .returns stream count next => goOn (next ()) (machine.giveBack process stream count)
  | .measures stream next => goOn (next (machine.fileSize? process stream)) machine
  | .asks next => goOn (next (machine.hostOf process)) machine
  | .changes tree next => goOn (next ()) { machine with tree := tree }
  | .opens path access next =>
    match machine.openFile process path access with
    | .ok (endpoint, machine) =>
      let stream := freeStream process.streams
      .goesOn { process with
        streams := setStream stream endpoint process.streams
        tasks := .work (next (.ok stream)) :: process.tasks } machine
    | .error error => goOn (next (.error error)) machine
  | .closes stream next =>
    .goesOn { process with
      streams := closeStream stream process.streams
      tasks := .work (next ()) :: process.tasks } machine
  | .sleeps time next =>
    .goesOn (process.push [.rest (machine.now + time.nanoseconds) (next ())]) machine
  | .becomes words environment next =>
    match resolveTool (hostFor environment process machine) words with
    | .ok (tool, arguments) =>
      let (process, machine) :=
        if tool.isShell then
          enterTool tool (words.headD []) arguments environment process machine
        else startTool tool (words.headD []) arguments environment process machine
      .goesOn process machine
    | .error error => goOn (next error) machine
  | .runs words environment limit next =>
    match resolveTool (hostFor environment process machine) words with
    | .ok (tool, arguments) =>
      let number := machine.nextNumber
      let (child, machine) := startTool tool (words.headD []) arguments environment
        { process with number := number, parent := process.number, tasks := [] }
        { machine with nextNumber := number + 1 }
      let machine := { machine with processes := machine.processes ++ [child] }
      .goesOn (process.push [.watch number (limit.map fun time ↦ machine.now + time.nanoseconds)
        fun status ↦ next (.ok status)]) machine
    | .error error => goOn (next (.error error)) machine

/-- Waits for a process, up to a time; then the process is stopped. -/
def watch (number : Nat) (time : Option Nat) (next : Option Nat → Job) (process : Process)
    (machine : Machine) : Outcome :=
  match machine.statusOf? number with
  | some status => .goesOn (process.push [.work (next (some status))]) machine
  | none =>
    match time with
    | none => .waits .others (process.push [.watch number time next]) machine
    | some limit =>
      if machine.now < limit then
        .waits (.time limit) (process.push [.watch number time next]) machine
      else
        .goesOn (process.push [.work (next none)])
          { machine with
            processes := machine.processes.filter fun other ↦ other.number ≠ number
            ended := (number, Signal.status Signal.term) :: machine.ended }

/-! ### Reading lines -/

/-- Reads on in a line that goes into variables. -/
def readLine (reading : Reading) (process : Process) (machine : Machine) : Outcome :=
  let close (line : Text) (status : Nat) : Process :=
    match assignFields reading.raw reading.names line process.state with
    | .ok state => process.withState (state.ended status)
    | .error message => process.refuse "read" message 2
  match machine.read process 0 true with
  | .text text machine =>
    let pieces := text :: reading.pieces
    let whole := pieces.reverse.flatten
    if text.getLast? != some '\n' then
      .goesOn (process.push [.read { reading with pieces := pieces }]) machine
    else if !reading.raw && goesOn whole.dropLast then
      .goesOn (process.push [.read { reading with pieces := pieces }]) machine
    else .goesOn (close whole.dropLast 0) machine
  | .finish | .refused _ => .goesOn (close reading.pieces.reverse.flatten 1) machine
  | .blocked onTerminal =>
    .waits (if onTerminal then .terminal else .others) (process.push [.read reading]) machine

/-! ### Steps -/

/-- Does a task that has been taken off the list. -/
def doTask (task : Task) (process : Process) (machine : Machine) : Outcome :=
  let goOn (process : Process) : Outcome := .goesOn process machine
  let both (result : Process × Machine) : Outcome := .goesOn result.1 result.2
  let state := process.state
  match task with
  | .run command tested =>
    if state.has 'n' then goOn process else both (run command tested process machine)
  | .expand expansion aim => both (expand expansion aim process machine)
  | .assign call => both (assign call process machine)
  | .perform call => both (perform call process machine)
  | .endOutput saved kept expansion aim =>
    goOn { process with
      state := { saved.state with expanded := state.status % 256 }
      streams := saved.streams
      tasks := .collect kept expansion aim :: process.tasks }
  | .collect kept expansion aim =>
    if machine.isHeld process (.pipeInput kept.pipe) then
      .waits .others (process.push [.collect kept expansion aim]) machine
    else
      let text := ((machine.pipes[kept.pipe]?).map Pipe.content).getD []
      let text := Text.trimEndWhile (· == '\n') (text.filter fun c ↦ c.toNat != 0)
      both (expand (expansion.resume kept.quoted text) aim process machine)
  | .check tested =>
    if state.status != 0 && !tested && state.has 'e' then goOn (process.leaveShell state.status)
    else goOn process
  | .restoreStreams _ | .restoreVariables _ | .endFunction _ _ | .endSource _ | .endText _ =>
    goOn (process.dropTask task)
  | .second onSuccess command tested =>
    if (state.status == 0) == onSuccess then goOn (process.push [.run command tested])
    else goOn process
  | .negate => goOn (process.ended (if state.status = 0 then 1 else 0))
  | .choose positive negative tested =>
    if state.status = 0 then goOn (process.push [.run positive tested])
    else goOn (process.runMaybe negative tested)
  | .loopTest negated condition body tested status =>
    if (state.status == 0) != negated then
      goOn (process.push [.run body tested, .loopAgain negated condition body tested])
    else goOn ((process.dropTask task).ended status)
  | .loopAgain negated condition body tested =>
    goOn (process.push
      [.run condition true, .loopTest negated condition body tested state.status])
  | .eachNext name values body tested =>
    match values with
    | [] => goOn (process.dropTask task)
    | value :: rest =>
      if state.isFixed name then goOn ((process.push [task]).giveUp (fixedName name))
      else
        goOn ((process.withState (state.set name value)).push
          [.run body tested, .eachNext name rest body tested])
  | .finish =>
    match state.traps.lookup "EXIT".toList with
    | none => goOn process
    | some action =>
      let traps := state.traps.filter fun (name, _) ↦ name ≠ "EXIT".toList
      goOn ((process.withState { state with traps := traps }).push
        [.script (.start action 1 true state.aliases) .whole false false, .endTrap state.status,
          .finish])
  | .endShell saved =>
    goOn { process with
      state := saved.state.ended (state.status % 256), streams := saved.streams }
  | .script scan origin started tested => runScript scan origin started tested process machine
  | .endTrap status => goOn (process.ended status)
  | .write stream text =>
    writeFor task stream text process machine fun error ↦
      if error == some .broken && !ignores process Signal.pipe then process.die Signal.pipe
      else process
  | .say command text =>
    writeFor task 1 text process machine fun
      | none => process
      | some error =>
        if error == .broken && !ignores process Signal.pipe then process.die Signal.pipe
        else process.refuse (String.ofList command) (command ++ ": I/O error".toList) 1
  | .read reading => readLine reading process machine
  | .work job => work job process machine
  | .rest time job =>
    if machine.now < time then .waits (.time time) (process.push [task]) machine
    else goOn (process.push [.work job])
  | .await numbers =>
    match numbers.mapM machine.statusOf? with
    | some statuses => goOn (process.ended (statuses.getLastD 0))
    | none => .waits .others (process.push [task]) machine
  | .attend numbers counts =>
    let unknown := numbers.filter fun number ↦
      state.children.all (·.process != number) && (machine.statusOf? number).isNone
    if counts && !unknown.isEmpty then goOn (process.ended 127)
    else
      match numbers.mapM machine.statusOf? with
      | some statuses => goOn (process.ended (if counts then statuses.getLastD 0 else 0))
      | none => .waits .others (process.push [task]) machine
  | .watch number time next => watch number time next process machine

/-- Whether a signal for which there is an action is dealt with before a task. -/
def mayInterrupt : Task → Bool
  | .run _ _ | .script _ _ _ _ | .finish | .attend _ _ | .loopTest _ _ _ _ _
  | .loopAgain _ _ _ _ | .eachNext _ _ _ _ | .check _ => true
  | _ => false

/-- Goes on by a task, or by what is done about a signal. -/
def step (process : Process) (machine : Machine) : Outcome :=
  match process.tasks with
  | [] => .ends (process.state.status % 256) machine
  | task :: rest =>
    let plain : Outcome := doTask task { process with tasks := rest } machine
    if machine.signals.isEmpty then plain
    else
      let number := if machine.signals.any fun (target, _) ↦ target == process.number then
          process.number
        else process.state.number
      let isOwn := number == process.number || machine.shells.lookup number == some process.number
      match if isOwn then machine.takeSignal? number else none with
      | none => plain
      | some (signal, taken) =>
        if Signal.isAbsolute signal then .goesOn (process.die signal) taken
        else
          match process.state.traps.lookup (Signal.name signal) with
          | some (_ :: _) =>
            if !mayInterrupt task then plain
            else
              match task with
              | .attend _ _ =>
                act signal ({ process with tasks := rest }.ended (Signal.status signal)) taken
              | _ => act signal process taken
          | _ => act signal process taken

end Dialogue.Machine
