import Dialogue.Tool.Awk.Parser
import Dialogue.Tool.Awk.State

/-!
# Running programs

A program is run rule by rule: first those that come before all records, then, for each record,
those that are meant for it, and those that come last. `awk` reads its words, the program among
them, and runs it.
-/

set_option autoImplicit false
set_option relaxedAutoImplicit false

namespace Dialogue.Tool.Awk

open Dialogue.Machine

namespace Run

/-- Joins the parts of a subscript. -/
def joinedSubscript (parts : List Value) : Run Text := do
  match parts with
  | [part] => textOf part
  | _ => return Text.joinWith (← globalText "SUBSEP") (← parts.mapM textOf)

/-- The index of a field. -/
def fieldIndex (value : Value) : Run Nat := do
  let index := cutInt value.toNumber
  if index < 0 then crash ("negative field index $".toList ++ Shell.Arithmetic.shown index)
  return index.toNat

/-- Whether a pattern matches a text. -/
def isMatch (pattern : Regex.Pattern) (text : Text) : Bool := (pattern.search text).isSome

/-- Replaces matches in a text: how many, and what comes of it. -/
def replaced (all : Bool) (pattern : Regex.Pattern) (replacement text : Text) : Nat × Text :=
  let found := if all then pattern.matchesIn text else (pattern.search text).toList
  (found.length, replacing replacement 0 text found)

/-- The value of a function that looks at values only. -/
def plainFunction (name : String) (values : List Value) : Run Value := do
  let first := values.headD .unset
  let number := first.toNumber
  let real (value : Float) : Run Value := return .number value
  match name, values with
  | "length", [] => real (Float.ofNat (← textOf (← field 0)).length)
  | "length", [value] => real (Float.ofNat (← textOf value).length)
  | "substr", [value, start] => return .text (partOf (← textOf value) start.toNumber none)
  | "substr", [value, start, count] =>
    return .text (partOf (← textOf value) start.toNumber (some count.toNumber))
  | "index", [value, part] =>
    let text ← textOf value
    let part ← textOf part
    let place := (List.range (text.length + 1)).find? fun n ↦ part.isPrefixOf (text.drop n)
    real (match place with
      | some n => Float.ofNat (n + 1)
      | none => 0.0)
  | "sprintf", format :: values =>
    let convert ← globalText "CONVFMT"
    let (text, flaw) := formatted convert (← textOf format) values
    if let some flaw := flaw then crash (flaw.toList ++ " sprintf".toList)
    return .text text
  | "sin", [_] => real number.sin
  | "cos", [_] => real number.cos
  | "atan2", [_, below] => real (Float.atan2 number below.toNumber)
  | "exp", [_] => real number.exp
  | "log", [_] => real number.log
  | "sqrt", [_] => real number.sqrt
  | "int", [_] => real (cutFloat number)
  | "rand", [] => real 0.5
  | "srand", _ => real 0.0
  | "tolower", [value] => return .text ((← textOf value).map Char.toLower)
  | "toupper", [value] => return .text ((← textOf value).map Char.toUpper)
  | "system", [command] =>
    flushFiles
    let words := ["sh".toList, "-c".toList, ← textOf command]
    match ← act (Work.run words (← get).environment none) with
    | .ok (some status) => real (Float.ofNat status)
    | _ => real 127.0
  | "close", [value] => close (← textOf value)
  | "fflush", _ =>
    flushFiles
    real 0.0
  | _, _ => crash ("wrong number of arguments in call to ".toList ++ name.toList)

/-- Reads a line: the number that tells how that went, and the line. -/
def readFrom (source : Source) (name : Text) : Run (Float × Option Text) := do
  match source with
  | .input =>
    match ← nextRecord 100000 with
    | some text => return (1.0, some text)
    | none => return (0.0, none)
  | _ =>
    let reader ← match (← get).readers.lookup name, source with
      | some reader, _ => pure (some reader)
      | none, .command => some <$> commandReader name
      | none, _ => openReader name
    match reader with
    | none => return (-1.0, none)
    | some reader =>
      let (record, reader) ← readRecord reader
      modify fun state ↦
        { state with
          readers := (name, reader) :: state.readers.filter fun (other, _) ↦ other != name }
      return (if record.isSome then 1.0 else 0.0, record)

/-- The values that a call gives to parameters: a place for an array, or a value. -/
def argumentSlot (name : Text) : Run (Option Nat) := do
  let slot ← slotOf name
  let slots := (← get).slots
  match slots[lastSlot slots slot slots.size]? with
  | some (.value .unset) | some (.elements _) => return some slot
  | _ => return none

mutual

/-- The value of an expression. -/
def eval (program : Program) (expr : Expr) : Nat → Run Value
  | 0 => act Work.rest
  | fuel + 1 => do
    match expr with
    | .number value => return .number value
    | .text value => return .text value
    | .pattern pattern => return truth (isMatch pattern (← textOf (← field 0)))
    | .named name => variableValue name
    | .field index => field (← fieldIndex (← eval program index fuel))
    | .element name subscript =>
      let subscript ← joinedSubscript (← evalAll program subscript fuel)
      elementValue (← slotOf name) subscript
    | .assign none target value =>
      let value ← eval program value fuel
      assign program target value fuel
      return value
    | .assign (some operation) target value =>
      let value ← eval program value fuel
      let old ← eval program target fuel
      let new := Value.number (operation.apply old.toNumber value.toNumber)
      assign program target new fuel
      return new
    | .step valueFirst up target =>
      let old := (← eval program target fuel).toNumber
      let new := if up then old + 1.0 else old - 1.0
      assign program target (.number new) fuel
      return .number (if valueFirst then old else new)
    | .arithmetic operation left right =>
      let a ← eval program left fuel
      let b ← eval program right fuel
      return .number (operation.apply a.toNumber b.toNumber)
    | .compare comparison left right =>
      let a ← eval program left fuel
      let b ← eval program right fuel
      return truth (comparison.holds (← globalText "CONVFMT") a b)
    | .join left right =>
      let a ← textOf (← eval program left fuel)
      let b ← textOf (← eval program right fuel)
      return .text (a ++ b)
    | .isMatch negated value pattern =>
      let text ← textOf (← eval program value fuel)
      let pattern ← evalPattern program pattern fuel
      return truth (isMatch pattern text != negated)
    | .both left right =>
      if (← eval program left fuel).isTrue then
        return truth (← eval program right fuel).isTrue
      else return truth false
    | .either left right =>
      if (← eval program left fuel).isTrue then return truth true
      else return truth (← eval program right fuel).isTrue
    | .negation inner => return truth (!(← eval program inner fuel).isTrue)
    | .minus inner => return .number (-(← eval program inner fuel).toNumber)
    | .plus inner => return .number (← eval program inner fuel).toNumber
    | .choice condition whenTrue whenFalse =>
      if (← eval program condition fuel).isTrue then eval program whenTrue fuel
      else eval program whenFalse fuel
    | .isIn subscript name =>
      let subscript ← joinedSubscript (← evalAll program subscript fuel)
      let (_, elements) ← arrayAt (← slotOf name)
      return truth (elements.any fun (other, _) ↦ other == subscript)
    | .call name arguments => call program name arguments fuel
    | .builtin name arguments => builtin program name arguments fuel
    | .readLine source place target =>
      let name ← match place with
        | some place => textOf (← eval program place fuel)
        | none => pure []
      let (outcome, line) ← readFrom source name
      match line, target with
      | some text, some target => assign program target (.input text) fuel
      | some text, none => setRecord (.input text)
      | none, _ => pure ()
      return .number outcome
    | .group [inner] => eval program inner fuel
    | .group _ => return .unset
termination_by structural fuel => fuel

/-- The values of expressions. -/
def evalAll (program : Program) (exprs : List Expr) : Nat → Run (List Value)
  | 0 => act Work.rest
  | fuel + 1 => do
    match exprs with
    | [] => return []
    | expr :: rest =>
      let value ← eval program expr fuel
      return value :: (← evalAll program rest fuel)
termination_by structural fuel => fuel

/-- The pattern that an expression is, or that its text writes. -/
def evalPattern (program : Program) (expr : Expr) : Nat → Run Regex.Pattern
  | 0 => act Work.rest
  | fuel + 1 => do
    match expr with
    | .pattern found => return found
    | _ => Run.pattern (← textOf (← eval program expr fuel))
termination_by structural fuel => fuel

/-- Gives a value to a place. -/
def assign (program : Program) (target : Expr) (value : Value) : Nat → Run Unit
  | 0 => act Work.rest
  | fuel + 1 => do
    match target with
    | .named name => setVariable name value
    | .field index => setField (← fieldIndex (← eval program index fuel)) value
    | .element name subscript =>
      let subscript ← joinedSubscript (← evalAll program subscript fuel)
      setElement (← slotOf name) subscript value
    | _ => pure ()
termination_by structural fuel => fuel

/-- The value of a function that every program has. -/
def builtin (program : Program) (name : String) (arguments : List Expr) : Nat → Run Value
  | 0 => act Work.rest
  | fuel + 1 => do
    match name, arguments with
    | "length", [.named array] =>
      let slot ← slotOf array
      let slots := (← get).slots
      match slots[lastSlot slots slot slots.size]? with
      | some (.elements elements) => return .number (Float.ofNat elements.length)
      | _ => plainFunction name [← variableValue array]
    | "split", value :: .named array :: separators =>
      let text ← textOf (← eval program value fuel)
      let separator ← match separators with
        | [.pattern found] => pure (Separator.pattern found)
        | separators => do
          let written ← match separators with
            | [] => globalText "FS"
            | expr :: _ => textOf (← eval program expr fuel)
          match Separator.ofText? written with
          | .ok separator => pure separator
          | .error flaw => crash flaw.message
      let pieces := fieldsOf separator text
      let elements := pieces.mapIdx fun n piece ↦ (Text.ofNat (n + 1), Value.input piece)
      let (slot, _) ← arrayAt (← slotOf array)
      putSlot slot (.elements elements.reverse)
      return .number (Float.ofNat pieces.length)
    | "match", [value, expr] =>
      let text ← textOf (← eval program value fuel)
      let found := (← evalPattern program expr fuel).search text
      let start := found.elim 0.0 fun found ↦ Float.ofNat (found.start.index + 1)
      let length := found.elim (-1.0) fun found ↦ Float.ofNat (found.stop.index - found.start.index)
      setGlobal "RSTART" (.number start)
      setGlobal "RLENGTH" (.number length)
      return .number start
    | _, expr :: replacement :: targets =>
      if name != "sub" && name != "gsub" then
        plainFunction name (← evalAll program arguments fuel)
      else
        let pattern ← evalPattern program expr fuel
        let replacement ← textOf (← eval program replacement fuel)
        let target := targets.headD (.field (.number 0.0))
        let text ← textOf (← eval program target fuel)
        let (count, text) := replaced (name == "gsub") pattern replacement text
        if 0 < count then assign program target (.text text) fuel
        return .number (Float.ofNat count)
    | _, _ => plainFunction name (← evalAll program arguments fuel)
termination_by structural fuel => fuel

/-- The value of a function of the program. -/
def call (program : Program) (name : Text) (arguments : List Expr) : Nat → Run Value
  | 0 => act Work.rest
  | fuel + 1 => do
    match program.functions.find? fun function ↦ function.name == name with
    | none => return .unset
    | some function =>
      let given ← bindArguments program arguments fuel
      let missing := function.parameters.length - given.length
      let slots ← (given ++ List.replicate missing (Slot.value .unset)).mapM newSlot
      let outer := (← get).parameters
      modify fun state ↦ { state with parameters := function.parameters.zip slots }
      let value ← tryCatch (do exec program function.body fuel; return Value.unset) fun jump ↦
        match jump with
        | .give value => return value
        | _ => do
          modify fun state ↦ { state with parameters := outer }
          throw jump
      modify fun state ↦ { state with parameters := outer }
      return value
termination_by structural fuel => fuel

/-- What the parameters of a function get. -/
def bindArguments (program : Program) (arguments : List Expr) : Nat → Run (List Slot)
  | 0 => act Work.rest
  | fuel + 1 => do
    match arguments with
    | [] => return []
    | .named name :: rest =>
      let slot ← match ← argumentSlot name with
        | some slot => pure (Slot.link slot)
        | none => Slot.value <$> variableValue name
      return slot :: (← bindArguments program rest fuel)
    | expr :: rest =>
      let value ← eval program expr fuel
      return .value value :: (← bindArguments program rest fuel)
termination_by structural fuel => fuel

/-- Does what a statement says. -/
def exec (program : Program) (statement : Statement) : Nat → Run Unit
  | 0 => act Work.rest
  | fuel + 1 => do
    match statement with
    | .value expr =>
      let _ ← eval program expr fuel
    | .print arguments place =>
      let values ← if arguments.isEmpty then pure [← field 0] else evalAll program arguments fuel
      let format := (← global "OFMT").toText "%.6g".toList
      let line := Text.joinWith (← globalText "OFS") (values.map (Value.toText format))
      emit program place (line ++ (← globalText "ORS")) fuel
    | .printFormat arguments place =>
      match ← evalAll program arguments fuel with
      | [] => pure ()
      | format :: values =>
        let (text, flaw) := formatted (← globalText "CONVFMT") (← textOf format) values
        emit program place text fuel
        if let some flaw := flaw then crash (flaw.toList ++ " printf".toList)
    | .choice condition whenTrue whenFalse =>
      if (← eval program condition fuel).isTrue then exec program whenTrue fuel
      else
        match whenFalse with
        | some whenFalse => exec program whenFalse fuel
        | none => pure ()
    | .loop condition body =>
      if (← eval program condition fuel).isTrue then
        if ← execBody program body fuel then exec program (.loop condition body) fuel
    | .loopOnce body condition =>
      if ← execBody program body fuel then exec program (.loop condition body) fuel
    | .loopWith start condition step body =>
      match start with
      | some start => exec program start fuel
      | none => pure ()
      let condition := condition.getD (.number 1.0)
      if (← eval program condition fuel).isTrue then
        if ← execBody program body fuel then
          exec program (.loopWith step (some condition) step body) fuel
    | .loopOver name array body =>
      let (_, elements) ← arrayAt (← slotOf array)
      execOver program name body (subscriptsOf elements) fuel
    | .block statements => execAll program statements fuel
    | .nextRecord => throw .nextRecord
    | .nextFile => throw .nextFile
    | .exit status =>
      match status with
      | some status =>
        let number := cutInt (← eval program status fuel).toNumber
        modify fun state ↦ { state with status := (number % 256).toNat }
      | none => pure ()
      throw .exit
    | .give none => throw (.give .unset)
    | .give (some value) => throw (.give (← eval program value fuel))
    | .leave => throw .leave
    | .goOn => throw .goOn
    | .delete name subscript =>
      let (slot, elements) ← arrayAt (← slotOf name)
      if subscript.isEmpty then putSlot slot (.elements [])
      else
        let subscript ← joinedSubscript (← evalAll program subscript fuel)
        putSlot slot (.elements (elements.filter fun (other, _) ↦ other != subscript))
termination_by structural fuel => fuel

/-- Does what some statements say. -/
def execAll (program : Program) (statements : List Statement) : Nat → Run Unit
  | 0 => act Work.rest
  | fuel + 1 => do
    match statements with
    | [] => pure ()
    | statement :: rest =>
      exec program statement fuel
      execAll program rest fuel
termination_by structural fuel => fuel

/-- Does what the body of a loop says, and tells whether the loop goes on. -/
def execBody (program : Program) (body : Statement) : Nat → Run Bool
  | 0 => act Work.rest
  | fuel + 1 =>
    tryCatch (do exec program body fuel; return true) fun jump ↦
      match jump with
      | .goOn => return true
      | .leave => return false
      | _ => throw jump
termination_by structural fuel => fuel

/-- Does what the body of a loop says, for some subscripts. -/
def execOver (program : Program) (name : Text) (body : Statement) (subscripts : List Text) :
    Nat → Run Unit
  | 0 => act Work.rest
  | fuel + 1 => do
    match subscripts with
    | [] => pure ()
    | subscript :: rest =>
      setVariable name (.input subscript)
      if ← execBody program body fuel then execOver program name body rest fuel
termination_by structural fuel => fuel

/-- Prints a text to a place. -/
def emit (program : Program) (place : Option (Destination × Expr)) (text : Text) : Nat → Run Unit
  | 0 => act Work.rest
  | fuel + 1 => do
    match place with
    | none => act (Work.put text)
    | some (destination, name) =>
      printTo destination (← textOf (← eval program name fuel)) text
termination_by structural fuel => fuel

end

/-- Whether a rule is meant for the record at work. -/
def selects (program : Program) (index : Nat) (selection : Selection) : Run Bool := do
  match selection with
  | .first | .last => return false
  | .always => return true
  | .at condition => return (← eval program condition Job.fuelLimit).isTrue
  | .between start stop =>
    let hasBegun := (← get).begun.contains index
    if hasBegun || (← eval program start Job.fuelLimit).isTrue then
      let isOver := (← eval program stop Job.fuelLimit).isTrue
      modify fun state ↦
        { state with
          begun := if isOver then state.begun.filter (· ≠ index) else index :: state.begun }
      return true
    else return false

/-- Runs the rules that are meant for the record at work. -/
def runRules (program : Program) : Run Unit := do
  for (rule, index) in program.rules.zipIdx do
    if ← selects program index rule.selection then exec program rule.body Job.fuelLimit

/-- Runs the rules of one kind. -/
def runAll (program : Program) (isWanted : Selection → Bool) : Run Unit := do
  for rule in program.rules do
    if isWanted rule.selection then exec program rule.body Job.fuelLimit

/-- Reads the records and runs the rules for each. The fuel bounds the number of records. -/
def runRecords (program : Program) : Nat → Run Unit
  | 0 => act Work.rest
  | fuel + 1 => do
    match ← nextRecord 100000 with
    | none => return ()
    | some text =>
      setRecord (.input text)
      tryCatch (runRules program) fun jump ↦
        match jump with
        | .nextRecord => pure ()
        | .nextFile =>
          modify fun state ↦
            { state with main := state.main.map fun reader ↦
              { reader with unread := [], isDone := true } }
        | _ => throw jump
      runRecords program fuel

/-- Does something unless the program ends before. -/
def untilExit (work : Run Unit) : Run Bool :=
  tryCatch (do work; return true) fun _ ↦ return false

/-- Runs a program: the status. -/
def runProgram (program : Program) : Run Nat := do
  let isFirst : Selection → Bool
    | .first => true
    | _ => false
  let isLast : Selection → Bool
    | .last => true
    | _ => false
  let goesOn ← untilExit (runAll program isFirst)
  if goesOn && program.readsRecords then
    let _ ← untilExit (runRecords program Job.fuelLimit)
  let _ ← untilExit (runAll program isLast)
  finish
  return (← get).status

end Run

/-! ### The words of the tool -/

/-- The words of the tool, read. -/
structure Request where
  settings : List Text
  separator : Option Text
  files : List Text
  isEager : Bool
  operands : List Text
  deriving Repr, DecidableEq, Inhabited

/-- Reads the words of the tool, or tells which one is wrong. -/
def Request.ofWords (request : Request) : List Text → Except Text Request
  | [] => .ok request
  | ['-', '-'] :: rest => .ok { request with operands := rest }
  | ['-', 'F'] :: value :: rest => ofWords { request with separator := some value } rest
  | ['-', 'v'] :: value :: rest =>
    ofWords { request with settings := request.settings ++ [value] } rest
  | ['-', 'f'] :: value :: rest => ofWords { request with files := request.files ++ [value] } rest
  | ['-', 'W'] :: value :: rest =>
    ofWords { request with isEager := request.isEager || value.head? == some 'i' } rest
  | ('-' :: 'F' :: value) :: rest => ofWords { request with separator := some value } rest
  | ('-' :: 'v' :: value) :: rest =>
    ofWords { request with settings := request.settings ++ [value] } rest
  | ('-' :: 'f' :: value) :: rest => ofWords { request with files := request.files ++ [value] } rest
  | ('-' :: 'W' :: value) :: rest =>
    ofWords { request with isEager := request.isEager || value.head? == some 'i' } rest
  | ('-' :: c :: word) :: _ => .error ('-' :: c :: word)
  | operands => .ok { request with operands := operands }

/-- The variables that a program begins with. -/
def firstVariables : List (String × Value) :=
  [("FS", .text [' ']), ("OFS", .text [' ']), ("ORS", .text ['\n']), ("RS", .text ['\n']),
    ("NF", .number 0.0), ("NR", .number 0.0), ("FNR", .number 0.0), ("FILENAME", .unset),
    ("SUBSEP", .text [Char.ofNat 28]), ("RSTART", .number 0.0), ("RLENGTH", .number (-1.0)),
    ("CONVFMT", .text "%.6g".toList), ("OFMT", .text "%.6g".toList)]

/-- Prepares the variables and runs a program. -/
def Run.start (name : Text) (program : Program) (request : Request) (operands : List Text) :
    Run Nat := do
  for (variableName, value) in firstVariables do
    Run.setGlobal variableName value
  let arguments := (name :: operands).mapIdx fun n word ↦ (Text.ofNat n, Value.input word)
  Run.putSlot (← Run.slotOf "ARGV".toList) (.elements arguments.reverse)
  Run.setGlobal "ARGC" (.number (Float.ofNat arguments.length))
  let environment := (← get).environment
  Run.putSlot (← Run.slotOf "ENVIRON".toList)
    (.elements (environment.map fun (name, value) ↦ (name, Value.input value)).reverse)
  if let some separator := request.separator then
    let separator := if separator == ['t'] then ['\t'] else expanded separator
    Run.setGlobal "FS" (.text separator)
  for word in request.settings do
    match Run.setting? word with
    | some (variableName, value) => Run.setVariable variableName (Run.given value)
    | none => Run.act (Work.fail ("improper assignment: -v ".toList ++ word) 2)
  Run.runProgram program

/-- Runs a program on the records of its inputs. -/
def awk (words : List Text) (environment : List (Text × Text)) : Work Nat := do
  let name ← Work.toolName
  let request ← match Request.ofWords ⟨[], none, [], false, []⟩ words with
    | .ok request => pure request
    | .error word => Work.fail ("not an option: ".toList ++ word) 2
  let texts ← Work.fold (fun texts file ↦ do
    match ← Work.readInput file with
    | .ok text => return texts ++ [text]
    | .error error => Work.fail (Run.cannotOpen file (error != .notFound)) 2)
    ([] : List Text) request.files
  match texts, request.operands with
  | [], [] =>
    Work.report "Usage: mawk [Options] [Program] [file ...]\n".toList
    return 0
  | [], text :: operands => run name request text operands
  | texts, operands => run name request (unlines texts) operands
where
  /-- Reads a program and runs it. -/
  run (name : Text) (request : Request) (text : Text) (operands : List Text) : Work Nat := do
    match Program.ofText text with
    | .error flaw => Work.fail ("line 1: ".toList ++ flaw.message) 2
    | .ok program =>
      if request.isEager then Work.holdNothing
      let state : State :=
        { slots := #[], globals := [], parameters := [], record := .input [], fields := #[]
          main := none, argument := 1, hadInput := false, readers := [], printers := []
          begun := [], status := 0, isEager := request.isEager, environment := environment }
      let (result, _) ← ((Run.start name program request operands).run).run state
      return match result with
        | .ok status => status
        | .error _ => 0

end Dialogue.Tool.Awk
