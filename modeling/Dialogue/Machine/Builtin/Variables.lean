import Dialogue.Machine.Builtin.Basic

/-!
# Commands for variables and arguments

The commands of the shell that set, list and remove variables, options, arguments and aliases:
`export`, `readonly`, `local`, `unset`, `set`, `shift`, `getopts`, `read`, `alias`, `unalias`.
-/

set_option autoImplicit false
set_option relaxedAutoImplicit false

namespace Dialogue.Machine

open Dialogue.Shell

/-! ### Declaring -/

/-- The complaint about a name that no variable can have. -/
def badName (name : Text) : Text :=
  name ++ ": bad variable name".toList

/-- The complaint about a variable that keeps its value. -/
def fixedName (name : Text) : Text :=
  name ++ ": is read only".toList

/-- The name and the value in a word that declares a variable. -/
def declared (word : Text) : Text × Option Text :=
  let name := word.takeWhile (· != '=')
  match word.drop name.length with
  | _ :: value => (name, some value)
  | [] => (name, none)

/-- Sets a variable, if that can be done. -/
def setVariable (state : State) (name value : Text) : Except Text State :=
  if !isName name then .error (badName name)
  else if state.isFixed name then .error (fixedName name)
  else .ok (state.set name value)

/-- Declares variables, each of which may get a value, and changes them. -/
def declareAll (change : Variable → Variable) (state : State) (words : List Text) :
    Except Text State :=
  words.foldlM (fun state word ↦ do
    let (name, value) := declared word
    let state ← match value with
      | some value => setVariable state name value
      | none => if isName name then pure state else .error (badName name)
    let old := (state.known.lookup name).getD ⟨none, false, false⟩
    return state.put name (change old)) state

/-- The variables that satisfy a test, in the order of their names, each as a command that declares
it. -/
def declarations (command : String) (test : Variable → Bool) (state : State) : Text :=
  let chosen := (state.known.filter fun (_, known) ↦ test known).mergeSort fun a b ↦
    !decide (b.1 < a.1)
  chosen.flatMap fun (name, known) ↦
    (if command.isEmpty then [] else command.toList ++ [' ']) ++ name
      ++ (match known.value with
        | some value => '=' :: singleQuotes value
        | none => []) ++ ['\n']

/-- Declares variables, or lists those that are declared so. -/
def Builtin.declare (command : String) (test : Variable → Bool) (change : Variable → Variable) :
    Builtin :=
  .withOptions command "p" fun options strict words process machine ↦
    if words.isEmpty || !options.isEmpty then
      (process.print command (declarations command test process.state) 0, machine)
    else
      match declareAll change process.state words with
      | .ok state => (process.withState (state.ended 0), machine)
      | .error message => (process.wrong strict command message, machine)

/-- Passes variables on to the commands that are run. -/
def Builtin.export : Builtin :=
  .declare "export" Variable.isExported fun known ↦ { known with isExported := true }

/-- Makes variables keep their values. -/
def Builtin.readonly : Builtin :=
  .declare "readonly" Variable.isFixed fun known ↦ { known with isFixed := true }

/-- Makes variables those of the function that is running. They keep their values at first. -/
def Builtin.local : Builtin := fun strict words process machine ↦
  match process.state.locals with
  | [] => (process.wrong strict "local" "not in a function".toList, machine)
  | _ :: _ =>
    let result := words.foldlM (fun (state : State) word ↦
      let (name, value) := declared word
      let state := match state.locals with
        | own :: outer =>
          if own.any fun (other, _) ↦ other == name then state
          else { state with locals := ((name, state.known.lookup name) :: own) :: outer }
        | [] => state
      match value with
      | some value => setVariable state name value
      | none => if isName name then Except.ok state else .error (badName name)) process.state
    match result with
    | .ok state => (process.withState (state.ended 0), machine)
    | .error message => (process.wrong strict "local" message, machine)

/-- Removes variables or functions. -/
def Builtin.unset : Builtin :=
  .withOptions "unset" "vf" fun options strict words process machine ↦
    let state := process.state
    if options.getLast?.any fun (c, _) ↦ c == 'f' then
      let functions := state.functions.filter fun (name, _) ↦ !words.contains name
      (process.withState { state with functions := functions, status := 0 }, machine)
    else
      match words.find? fun name ↦ !isName name || state.isFixed name with
      | some name =>
        (process.wrong strict "unset" (if isName name then fixedName name else badName name),
          machine)
      | none => (process.withState ((words.foldl State.unset state).ended 0), machine)

/-! ### Options and arguments -/

/-- Sets options and arguments, or lists the variables. -/
def Builtin.set : Builtin := fun strict words process machine ↦
  let state := process.state
  if words.isEmpty then
    (process.print "set" (declarations "" (fun known ↦ known.value.isSome) state) 0, machine)
  else
    match Settings.read false state.options words with
    | .error message => (process.wrong strict "set" message, machine)
    | .ok settings =>
      let arguments := if settings.replaces || !settings.rest.isEmpty then settings.rest
        else state.arguments
      let text := match settings.listing with
        | some true => listedOptions settings.options
        | some false => optionCommands settings.options
        | none => []
      let process := process.withState { state with
        options := settings.options, arguments := arguments, optionLetters := 0 }
      (process.print "set" text 0, machine)

/-- Drops arguments. -/
def Builtin.shift : Builtin := fun strict words process machine ↦
  match words.head?.mapM count with
  | .error message => (process.wrong strict "shift" message, machine)
  | .ok wanted =>
    let dropped := wanted.getD 1
    if process.state.arguments.length < dropped then
      (process.wrong strict "shift" "can't shift that many".toList, machine)
    else
      (process.withState { process.state with
        arguments := process.state.arguments.drop dropped, status := 0, optionLetters := 0 },
        machine)

/-- Where the reading of options stands: the words, the number of the next one, and how many letters
of the one before it have been read. -/
structure OptionCursor where
  words : List Text
  next : Nat
  letters : Nat
  deriving Repr, DecidableEq, Inhabited

/-- What reading an option yields: its letter, the text that belongs to it, a complaint, and where
to go on; no cursor is left behind the last option. -/
structure OptionFound where
  letter : Char
  argument : Option Text
  complaint : Option Text
  cursor : OptionCursor
  isDone : Bool
  deriving Repr, DecidableEq, Inhabited

/-- Reads the next option. What is allowed may begin with a colon, and then no complaint is written.
-/
def OptionCursor.read (cursor : OptionCursor) (allowed : Text) : OptionFound :=
  let silent := allowed.head? == some ':'
  let unread := if cursor.letters = 0 || cursor.next < 2 then []
    else ((cursor.words[cursor.next - 2]?).getD []).drop cursor.letters
  let started : Option (Text × OptionCursor) :=
    if !unread.isEmpty then some (unread, cursor)
    else
      match cursor.words[cursor.next - 1]? with
      | some ('-' :: c :: more) => some (c :: more, ⟨cursor.words, cursor.next + 1, 1⟩)
      | _ => none
  match started with
  | none => ⟨'?', none, none, { cursor with letters := 0 }, true⟩
  | some (letters, inside) =>
    let letter := letters.headD '?'
    let after := letters.drop 1
    let found := allowed.dropWhile (· != letter)
    let behind : OptionCursor :=
      { inside with letters := if after.isEmpty then 0 else inside.letters + 1 }
    if letters == ['-'] && inside.letters = 1 then
      ⟨'?', none, none, { inside with letters := 0 }, true⟩
    else if letter == ':' || found.isEmpty then
      ⟨'?', if silent then some [letter] else none,
        if silent then none else some ("Illegal option -".toList ++ [letter]), behind, false⟩
    else if found[1]? == some ':' then
      let last : OptionCursor := { inside with letters := 0 }
      if !after.isEmpty then ⟨letter, some after, none, last, false⟩
      else
        match cursor.words[inside.next - 1]? with
        | some text => ⟨letter, some text, none, { last with next := inside.next + 1 }, false⟩
        | none =>
          ⟨if silent then ':' else '?', if silent then some [letter] else none,
            if silent then none
            else some ("No arg for -".toList ++ [letter] ++ " option".toList), last, false⟩
    else ⟨letter, some [], none, behind, false⟩

/-- Reads an option from the arguments. -/
def Builtin.getopts : Builtin := fun strict words process machine ↦
  match words with
  | allowed :: name :: given =>
    let state := process.state
    let arguments := if given.isEmpty then state.arguments else given
    let next := ((state.value? "OPTIND".toList).bind (Text.toNat? 10)).getD 1
    let found := OptionCursor.read ⟨arguments, max next 1, state.optionLetters⟩ allowed
    let result : Except Text State := do
      let state ← if found.isDone then pure state
        else
          match found.argument with
          | some text => setVariable state "OPTARG".toList text
          | none => pure (state.unset "OPTARG".toList)
      let state ← setVariable state "OPTIND".toList (Text.ofNat found.cursor.next)
      let state ← setVariable state name [found.letter]
      return { state with optionLetters := found.cursor.letters }
    match result with
    | .ok state =>
      let process := process.withState (state.ended (if found.isDone then 1 else 0))
      (match found.complaint with
        | some complaint => process.push [.write 2 (complaint ++ ['\n'])]
        | none => process, machine)
    | .error message => (process.wrong strict "getopts" message, machine)
  | _ =>
    (process.wrong strict "getopts" "Usage: getopts optstring var [arg...]".toList, machine)

/-! ### Reading lines -/

/-- Reads a line into variables. -/
def Builtin.read : Builtin :=
  .withOptions "read" "p:r" fun options strict names process machine ↦
    if names.isEmpty then (process.wrong strict "read" "arg count".toList, machine)
    else (process.push [.read ⟨options.any fun (c, _) ↦ c == 'r', names, []⟩], machine)

/-- The characters of a line; those behind a backslash are quoted. A backslash joins a line with the
next one. -/
def lineMarks : Text → List Mark
  | [] => []
  | ['\\'] => []
  | '\\' :: '\n' :: rest => lineMarks rest
  | '\\' :: c :: rest => (c, true) :: lineMarks rest
  | c :: rest => (c, false) :: lineMarks rest

/-- Whether a line goes on: it ends with a backslash that is not itself behind one. -/
def goesOn (line : Text) : Bool :=
  (line.reverse.takeWhile (· == '\\')).length % 2 == 1

/-- Puts the fields of a line into variables. -/
def assignFields (raw : Bool) (names : List Text) (line : Text) (state : State) :
    Except Text State :=
  let line := line.filter fun c ↦ c.toNat != 0
  let marks := if raw then marksOf false line else lineMarks line
  (lineFields state.separators marks names).foldlM (fun state (name, value) ↦
    setVariable state name value) state

/-! ### Aliases -/

/-- An alias as a command that makes it. -/
def aliasText (entry : Text × Text) : Text :=
  entry.1 ++ '=' :: singleQuotes entry.2

/-- Makes or lists words that stand for other texts. -/
def Builtin.alias : Builtin := fun _ words process machine ↦
  let state := process.state
  if words.isEmpty then
    (process.print "alias" (state.aliases.flatMap fun entry ↦ aliasText entry ++ ['\n']) 0,
      machine)
  else
    let (aliases, listed, missing) := words.foldl
      (fun (aliases, listed, missing) word ↦
        match declared word with
        | (name, some text) =>
          ((name, text) :: aliases.filter fun (other, _) ↦ other ≠ name, listed, missing)
        | (name, none) =>
          match aliases.lookup name with
          | some text => (aliases, listed ++ aliasText (name, text) ++ ['\n'], missing)
          | none => (aliases, listed, missing ++ [name]))
      (state.aliases, ([] : Text), ([] : List Text))
    let process := (process.withState { state with aliases := aliases }).print "alias" listed
      (if missing.isEmpty then 0 else 1)
    (missing.foldr (fun name process ↦
      process.push [.write 2 ("alias: ".toList ++ name ++ " not found\n".toList)]) process, machine)

/-- Removes aliases. -/
def Builtin.unalias : Builtin :=
  .withOptions "unalias" "a" fun options _ words process machine ↦
    let state := process.state
    if !options.isEmpty then
      (process.withState { state with aliases := [], status := 0 }, machine)
    else
      let missing := words.filter fun name ↦ (state.aliases.lookup name).isNone
      let process := process.withState { state with
        aliases := state.aliases.filter fun (name, _) ↦ !words.contains name
        status := if missing.isEmpty then 0 else 1 }
      (missing.foldr (fun name process ↦
        process.push [.write 2 ("unalias: ".toList ++ name ++ " not found\n".toList)]) process,
        machine)

end Dialogue.Machine
