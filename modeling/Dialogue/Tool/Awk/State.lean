import Dialogue.Tool.Awk.Value
import Dialogue.Tool.Running

/-!
# Where a program stands

The variables of a program, its record with the fields, and the files and commands that it reads and
writes. A variable has a slot, which holds a value or the elements of an array; a parameter that
stands for an array of the caller leads to its slot. A command that is read from or printed to works
on a file of its own.
-/

set_option autoImplicit false
set_option relaxedAutoImplicit false

namespace Dialogue.Tool.Awk

open Dialogue.Machine

/-- What a variable has. -/
inductive Slot where
  | value (value : Value)
  /-- The elements of an array by their subscripts, the newest one first. -/
  | elements (elements : List (Text × Value))
  /-- What another slot has. -/
  | link (slot : Nat)
  deriving Inhabited

/-- Something that is read record by record. -/
structure Reader where
  stream : Nat
  unread : Text
  /-- Whether everything has been read. -/
  isDone : Bool
  deriving Repr, DecidableEq, Inhabited

/-- Something that is printed to. -/
structure Printer where
  name : Text
  /-- The stream of a file; none for a command. -/
  stream : Option Nat
  /-- What is held back, the last piece first. -/
  held : List Text
  deriving Repr, DecidableEq, Inhabited

/-- Where a program stands. -/
structure State where
  slots : Array Slot
  globals : List (Text × Nat)
  /-- The parameters of the function at work. -/
  parameters : List (Text × Nat)
  record : Value
  fields : Array Value
  /-- The input that is read. -/
  main : Option Reader
  /-- The number of the next argument. -/
  argument : Nat
  /-- Whether an argument named an input. -/
  hadInput : Bool
  readers : List (Text × Reader)
  printers : List Printer
  /-- The rules with a range that has begun. -/
  begun : List Nat
  status : Nat
  /-- Whether what is there is read at once. -/
  isEager : Bool
  environment : List (Text × Text)
  deriving Inhabited

/-- Why what follows is not done. -/
inductive Jump where
  | leave
  | goOn
  | nextRecord
  | nextFile
  | exit
  | give (value : Value)
  deriving Repr, BEq, Inhabited

/-- A part of the work of a program. -/
abbrev Run (α : Type) := ExceptT Jump (StateT State Work) α

namespace Run

/-- Does some work. -/
def act {α : Type} (work : Work α) : Run α :=
  ExceptT.lift (StateT.lift work)

/-- Ends the program because something went wrong. -/
def crash {α : Type} (message : Text) : Run α :=
  act (Work.fail ("run time error: ".toList ++ message) 2)

/-- The pattern that a text is. -/
def pattern (text : Text) : Run Regex.Pattern :=
  match patternOf text with
  | .ok pattern => pure pattern
  | .error flaw => crash flaw.message

/-! ### Variables -/

/-- A new slot. -/
def newSlot (slot : Slot) : Run Nat := do
  let state ← get
  set { state with slots := state.slots.push slot }
  return state.slots.size

/-- The slot of a variable. -/
def slotOf (name : Text) : Run Nat := do
  let state ← get
  match state.parameters.lookup name, state.globals.lookup name with
  | some slot, _ | none, some slot => return slot
  | none, none =>
    let slot ← newSlot (.value .unset)
    modify fun state ↦ { state with globals := (name, slot) :: state.globals }
    return slot

/-- The slot that a slot leads to. The fuel is the number of slots. -/
def lastSlot (slots : Array Slot) (slot : Nat) : Nat → Nat
  | 0 => slot
  | fuel + 1 =>
    match slots[slot]? with
    | some (.link other) => lastSlot slots other fuel
    | _ => slot

/-- The slot of an array, and its elements. -/
def arrayAt (slot : Nat) : Run (Nat × List (Text × Value)) := do
  let slots := (← get).slots
  let last := lastSlot slots slot slots.size
  match slots[last]? with
  | some (.elements elements) => return (last, elements)
  | some (.value .unset) => return (last, [])
  | _ => crash "type error in arguments".toList

/-- Puts something into a slot. -/
def putSlot (slot : Nat) (content : Slot) : Run Unit :=
  modify fun state ↦ { state with slots := state.slots.setIfInBounds slot content }

/-- The value of a global variable. -/
def global (name : String) : Run Value := do
  let state ← get
  match (state.globals.lookup name.toList).bind fun slot ↦ state.slots[slot]? with
  | some (.value value) => return value
  | _ => return .unset

/-- Gives a global variable a value, without any other effect. -/
def setGlobal (name : String) (value : Value) : Run Unit := do
  match (← get).globals.lookup name.toList with
  | some slot => putSlot slot (.value value)
  | none =>
    let slot ← newSlot (.value value)
    modify fun state ↦ { state with globals := (name.toList, slot) :: state.globals }

/-- The text of a value. -/
def textOf (value : Value) : Run Text := do
  match value with
  | .number _ => return value.toText ((← global "CONVFMT").toText "%.6g".toList)
  | _ => return value.toText []

/-- The text of a global variable. -/
def globalText (name : String) : Run Text := do textOf (← global name)

/-! ### Fields -/

/-- Gives a value to the record, and cuts it into fields. -/
def setRecord (value : Value) : Run Unit := do
  let text ← textOf value
  let separator ← globalText "FS"
  let isParagraph := (← globalText "RS").isEmpty
  let separator ← match Separator.ofText? separator with
    | .ok separator => pure separator
    | .error flaw => crash flaw.message
  let pieces := match separator, isParagraph with
    | .blanks, _ | _, false => fieldsOf separator text
    | _, true => (Text.splitOn '\n' text).flatMap (fieldsOf separator)
  let fields := (pieces.map Value.input).toArray
  modify fun state ↦ { state with record := value, fields := fields }
  setGlobal "NF" (.number (Float.ofNat fields.size))

/-- The value of a field. -/
def field (index : Nat) : Run Value := do
  let state ← get
  return if index = 0 then state.record else (state.fields[index - 1]?).getD .unset

/-- Puts the record together from some fields. -/
def setFields (fields : Array Value) : Run Unit := do
  let separator ← globalText "OFS"
  let texts ← fields.toList.mapM textOf
  modify fun state ↦
    { state with fields := fields, record := .input (Text.joinWith separator texts) }
  setGlobal "NF" (.number (Float.ofNat fields.size))

/-- Gives a value to a field. -/
def setField (index : Nat) (value : Value) : Run Unit := do
  if index = 0 then setRecord value
  else
    let fields := (← get).fields
    let missing := index - fields.size
    let fields := fields ++ (List.replicate missing (Value.text [])).toArray
    setFields (fields.setIfInBounds (index - 1) value)

/-- Gives a value to a variable. The number of fields takes fields away or adds some. -/
def setVariable (name : Text) (value : Value) : Run Unit := do
  let isLocal := (← get).parameters.any fun (other, _) ↦ other == name
  if name == "NF".toList && !isLocal then
    let count := cutInt value.toNumber
    if count < 0 then crash "negative value assigned to NF".toList
    let fields := (← get).fields
    let missing := count.toNat - fields.size
    setFields ((fields ++ (List.replicate missing (Value.text [])).toArray).extract 0 count.toNat)
  else
    let slot ← slotOf name
    let slots := (← get).slots
    match slots[lastSlot slots slot slots.size]? with
    | some (.elements _) => crash ("can't assign to array ".toList ++ name)
    | _ => putSlot slot (.value value)

/-- The value of a variable. -/
def variableValue (name : Text) : Run Value := do
  let slot ← slotOf name
  let slots := (← get).slots
  match slots[slot]? with
  | some (.value value) => return value
  | some (.link other) =>
    match slots[lastSlot slots other slots.size]? with
    | some (.elements _) => crash ("type error in arguments: ".toList ++ name)
    | _ => return .unset
  | some (.elements _) => crash ("type error in arguments: ".toList ++ name)
  | none => return .unset

/-! ### Arrays -/

/-- A number that is worked out from a text, and tells the bucket that holds it. -/
def hash (text : Text) : UInt32 :=
  text.foldl (fun hash c ↦ (hash ^^^ c.toNat.toUInt32) * 16777619) 2166136261

/-- How many buckets there are for a number of elements. The fuel bounds the number of steps. -/
def bucketCount (size buckets : Nat) : Nat → Nat
  | 0 => buckets
  | fuel + 1 => if buckets * 12 < size then bucketCount size (2 * buckets) fuel else buckets

/-- Whether a subscript is a whole number. -/
def isWhole (subscript : Text) : Bool := !subscript.isEmpty && subscript.all Char.isDigit

/-- The subscripts of an array in the order in which they are gone through: bucket by bucket. Within
a bucket, whole numbers come first, in an order of their own. -/
def subscriptsOf (elements : List (Text × Value)) : List Text :=
  let buckets := bucketCount elements.length 64 40
  let subscripts := elements.map Prod.fst
  let wholes := (subscripts.reverse.filter isWhole).map fun subscript ↦
    ((Text.toNat? 10 subscript).getD 0 % buckets, subscript)
  let wholes := (wholes.mergeSort fun a b ↦ b.1 ≤ a.1).map Prod.snd
  let others := subscripts.filter fun subscript ↦ !isWhole subscript
  let marked := (wholes ++ others).map fun subscript ↦
    ((hash subscript).toNat % buckets, subscript)
  (marked.mergeSort fun a b ↦ a.1 ≤ b.1).map Prod.snd

/-- Puts an element into an array. An element whose subscript is no whole number comes to the
front. -/
def setElement (slot : Nat) (subscript : Text) (value : Value) : Run Unit := do
  let (slot, elements) ← arrayAt slot
  let isThere := elements.any fun (other, _) ↦ other == subscript
  let elements := if isThere && isWhole subscript then
      elements.map fun (other, old) ↦ (other, if other == subscript then value else old)
    else (subscript, value) :: elements.filter fun (other, _) ↦ other != subscript
  putSlot slot (.elements elements)

/-- The value of an element, which is made if it is not there. -/
def elementValue (slot : Nat) (subscript : Text) : Run Value := do
  let (_, elements) ← arrayAt slot
  let value := (elements.lookup subscript).getD .unset
  setElement slot subscript value
  return value

/-! ### Reading -/

/-- How much is read before anything is looked at. -/
def blockSize : Nat := 4096

/-- Reads more from a reader. -/
def readMore (reader : Reader) : Run Reader := do
  let isEager := (← get).isEager
  let enough := if reader.unread.length < blockSize then blockSize
    else 2 * reader.unread.length
  act <| Work.loop (fun (reader : Reader) ↦ do
    match ← Work.read reader.stream with
    | .text text =>
      let reader := { reader with unread := reader.unread ++ text }
      return if isEager || enough ≤ reader.unread.length then .inr reader else .inl reader
    | _ => return .inr { reader with isDone := true }) reader

/-- The text up to an empty line, behind what was found before, the last character first, and what
follows. -/
def cutParagraph (found : Text) : Text → Text × Text
  | '\n' :: '\n' :: rest => (found.reverse, rest)
  | c :: rest => cutParagraph (c :: found) rest
  | [] => (found.reverse, [])

/-- The first record of a text, and what follows it; none if more of the text may be needed. -/
def cutRecord? (separator : Text) (pattern : Option Regex.Pattern) (isDone : Bool) (text : Text) :
    Option (Text × Text) :=
  let whole : Option (Text × Text) := if isDone then some (text, []) else none
  match separator, pattern with
  | [], _ =>
    let (record, rest) := cutParagraph [] text
    let behind := rest.dropWhile (· == '\n')
    if behind.isEmpty && !isDone then none
    else some (Text.trimEndWhile (· == '\n') record, behind)
  | [c], _ =>
    let record := text.takeWhile (· != c)
    match text.drop record.length with
    | _ :: rest => some (record, rest)
    | [] => whole
  | _, some pattern =>
    match (pattern.matchesIn text).find? fun found ↦ found.start.index < found.stop.index with
    | some found =>
      if found.stop.rest.isEmpty && !isDone then none
      else some (text.take found.start.index, found.stop.rest)
    | none => whole
  | _, none => whole

/-- Reads a record that ends with a separator, which may be a pattern. The fuel bounds how often
more is read. -/
def readRecordUpTo (separator : Text) (pattern : Option Regex.Pattern) (reader : Reader) :
    Nat → Run (Option Text × Reader)
  | 0 => return (none, reader)
  | fuel + 1 => do
    let unread := if separator.isEmpty then reader.unread.dropWhile (· == '\n') else reader.unread
    let reader := { reader with unread := unread }
    if unread.isEmpty && reader.isDone then return (none, reader)
    match if unread.isEmpty then none else cutRecord? separator pattern reader.isDone unread with
    | some (record, rest) => return (some record, { reader with unread := rest })
    | none => readRecordUpTo separator pattern (← readMore reader) fuel

/-- Reads a record. -/
def readRecord (reader : Reader) : Run (Option Text × Reader) := do
  let separator ← globalText "RS"
  let pattern ← if 1 < separator.length then some <$> Run.pattern separator else pure none
  readRecordUpTo separator pattern reader Job.fuelLimit

/-- What opening a file to read it comes to. -/
def openReader (name : Text) : Run (Option Reader) := do
  let isInput := name == ['-'] || name == "/dev/stdin".toList
  match ← act (Work.openInput (if isInput then ['-'] else name)) with
  | .ok stream => return some ⟨stream, [], false⟩
  | .error _ => return none

/-- A value for a variable that is written in a command line. -/
def given (text : Text) : Value := .input (expanded text)

/-- The name and the value of an argument that sets a variable. -/
def setting? (word : Text) : Option (Text × Text) :=
  let name := word.takeWhile isNameChar
  match word.drop name.length with
  | '=' :: value =>
    if name.head?.any fun c ↦ !c.isDigit then some (name, value) else none
  | _ => none

/-- The complaint about a file that cannot be opened, or is not even there. -/
def cannotOpen (name : Text) (isThere : Bool) : Text :=
  "cannot open \"".toList ++ name ++ ['"']
    ++ (if isThere then "" else " (No such file or directory)").toList

/-- Opens the next input that the arguments name; the standard input if they name none. -/
def nextInput : Nat → Run (Option Reader)
  | 0 => return none
  | fuel + 1 => do
    let state ← get
    let count := cutInt (← global "ARGC").toNumber
    if count ≤ state.argument then
      if state.hadInput then return none
      set { state with hadInput := true }
      setGlobal "FILENAME" (.text ['-'])
      return some ⟨0, [], false⟩
    else
      let (_, arguments) ← arrayAt (← slotOf "ARGV".toList)
      let word ← textOf ((arguments.lookup (Text.ofNat state.argument)).getD .unset)
      set { state with argument := state.argument + 1 }
      match setting? word with
      | some (name, value) =>
        setVariable name (given value)
        nextInput fuel
      | none =>
        if word.isEmpty then nextInput fuel
        else
          modify fun state ↦ { state with hadInput := true }
          setGlobal "FILENAME" (.text word)
          setGlobal "FNR" (.number 0.0)
          match ← openReader word with
          | some reader => return some reader
          | none =>
            let host ← act Work.host
            let isThere := (host.lookup? ⟨Text.widen word⟩).isSome
            act (Work.fail (cannotOpen word isThere) 2)

/-- Reads the next record of the inputs. The fuel bounds the number of inputs. -/
def nextRecord : Nat → Run (Option Text)
  | 0 => return none
  | fuel + 1 => do
    match (← get).main with
    | some reader =>
      let (record, reader) ← readRecord reader
      match record with
      | some text =>
        modify fun state ↦ { state with main := some reader }
        for name in ["NR", "FNR"] do
          setGlobal name (.number ((← global name).toNumber + 1.0))
        return some text
      | none =>
        if 2 < reader.stream then act (Work.close reader.stream)
        match ← nextInput 100000 with
        | some reader =>
          modify fun state ↦ { state with main := some reader }
          nextRecord fuel
        | none =>
          modify fun state ↦ { state with main := some ⟨0, [], true⟩ }
          return none
    | none =>
      match ← nextInput 100000 with
      | some reader =>
        modify fun state ↦ { state with main := some reader }
        nextRecord fuel
      | none => return none

/-! ### Commands and output -/

/-- The file that a command works on. -/
def commandFile : Text := "/.awk".toList

/-- Removes the file that a command works on. -/
def removeCommandFile : Work Unit := do
  Work.changeFiles ((← Work.host).tree.remove [".awk".toList])

/-- Runs a command, and still holds back what is held back. -/
def runAside (words : List Text) (environment : List (Text × Text)) :
    Work (Except FileError (Option Nat)) := fun desk next ↦
  .runs words environment none fun result ↦ next result desk

/-- Runs a command whose input or output is the file that commands work on. -/
def runWith (redirection : String) (command : Text) : Run Unit := do
  let environment := (← get).environment
  let script := "eval \"$1\" ".toList ++ redirection.toList ++ "\"$2\"".toList
  let words := ["sh".toList, "-c".toList, script, "sh".toList, command, commandFile]
  let _ ← act (runAside words environment)

/-- Writes what a printer holds back. A command is run only if it is to end. -/
def release (printer : Printer) : Run Unit := do
  let text := printer.held.reverse.flatten
  match printer.stream with
  | some stream => if !text.isEmpty then let _ ← act (Work.writeTo stream text)
  | none =>
    act do
      match ← Work.openFile commandFile .write with
      | .ok stream =>
        let _ ← Work.writeTo stream text
        Work.close stream
      | .error _ => pure ()
    runWith "<" printer.name
    act removeCommandFile

/-- Writes all that is held back for files. -/
def flushFiles : Run Unit := do
  act Work.flush
  for printer in (← get).printers do
    if printer.stream.isSome then release printer
  modify fun state ↦
    { state with
      printers := state.printers.map fun printer ↦
        if printer.stream.isSome then { printer with held := [] } else printer }

/-- The reader of what a command prints, which is read to its end at once. -/
def commandReader (command : Text) : Run Reader := do
  flushFiles
  runWith ">" command
  let text ← act do
    match ← Work.readInput commandFile with
    | .ok text => pure text
    | .error _ => pure []
  act removeCommandFile
  return ⟨0, text, true⟩

/-- Prints a text to a file or a command. -/
def printTo (destination : Destination) (name text : Text) : Run Unit := do
  if destination != .command && (name == ['-'] || name == "/dev/stdout".toList) then
    act (Work.put text)
  else if destination != .command && name == "/dev/stderr".toList then
    let _ ← act (Work.writeTo 2 text)
  else
    let isCommand := destination == .command
    let isSame (printer : Printer) : Bool :=
      printer.name == name && printer.stream.isNone == isCommand
    let state ← get
    if state.printers.any isSame then
      set { state with
        printers := state.printers.map fun printer ↦
          if isSame printer then { printer with held := text :: printer.held } else printer }
    else
      let stream ← if isCommand then pure none else do
        let access : Access := if destination == .append then .append else .write
        match ← act (Work.openFile name access) with
        | .ok stream => pure (some stream)
        | .error error =>
          act (Work.fail ("cannot open \"".toList ++ name ++ "\" for output (".toList
            ++ error.wording ++ [')']) 2)
      modify fun state ↦
        { state with printers := state.printers ++ [⟨name, stream, [text]⟩] }

/-- Closes what is read or printed to under a name: zero if there was any. -/
def close (name : Text) : Run Value := do
  act Work.flush
  let state ← get
  let closed := state.printers.filter fun printer ↦ printer.name == name
  let wasRead := state.readers.any fun (other, _) ↦ other == name
  for printer in closed do
    release printer
    if let some stream := printer.stream then act (Work.close stream)
  modify fun state ↦
    { state with
      printers := state.printers.filter fun printer ↦ printer.name != name
      readers := state.readers.filter fun (other, _) ↦ other != name }
  return .number (if closed.isEmpty && !wasRead then -1.0 else 0.0)

/-- Writes everything for files, and lets the commands that are printed to end. -/
def finish : Run Unit := do
  for printer in (← get).printers do
    release printer

end Run

end Dialogue.Tool.Awk
