import Dialogue.Files.Host

/-!
# Executables

A file can be run if it is marked so and is either one of the tools of the system or begins with a
line that names an interpreter for it, which is an executable in turn and gets the path of the file
as an argument. So whatever is run comes down to a tool with some arguments in front
(`Host.executable`). A command with a separator in it is a path; any other one is looked for in the
directories of the search path (`Host.command`).
-/

set_option autoImplicit false
set_option relaxedAutoImplicit false

namespace Dialogue

/-! ### Tools -/

/-- A tool of the system. -/
structure Tool where
  name : String
  deriving Repr, DecidableEq, Inhabited

namespace Tool

/-- The names of the tools. -/
def names : List String :=
  ["sh", "dash", "bash", "cat", "tee", "head", "tail", "tac", "rev", "yes", "cut", "paste", "fold",
    "nl", "wc", "sort", "uniq", "comm", "tr", "od", "seq", "expr", "ls", "find", "mkdir", "rmdir",
    "rm", "unlink", "touch", "cp", "mv", "chmod", "cmp", "basename", "dirname", "realpath",
    "readlink", "pwd", "grep", "egrep", "fgrep", "sed", "echo", "printf", "test", "[", "true",
    "false", "sleep", "id", "whoami", "uname", "tty", "sync", "env", "printenv", "nohup", "nice",
    "stdbuf", "setsid", "timeout", "xargs", "awk", "mawk"]

/-- What the image of a tool begins with. -/
def magic : List UInt8 := [127, 69, 76, 70]

/-- The content of the file of a tool that has a name. -/
def image (name : String) : List UInt8 :=
  magic ++ Text.Utf8.encode name.toList

/-- The tool that the content of a file is. -/
def ofImage? (content : List UInt8) : Option Tool :=
  if magic.isPrefixOf content then (names.find? fun name ↦ image name == content).map Tool.mk
  else none

/-- Whether a tool is a shell. -/
def isShell (tool : Tool) : Bool :=
  ["sh", "dash", "bash"].contains tool.name

end Tool

/-- The host with all tools in a directory. -/
def Host.withTools (host : Host) (directory : Location) : Host :=
  Tool.names.foldl
    (fun h name ↦ h.put (directory ++ [name.toList]) (.file (Tool.image name) true)) host

/-- The files that stand for what is no file. -/
def deviceNames : List String := ["null", "stdin", "stdout", "stderr"]

/-- The host with the files that stand for what is no file. -/
def Host.withDevices (host : Host) : Host :=
  deviceNames.foldl
    (fun h name ↦ h.put ["dev".toList, name.toList] (.file [] false)) host

/-! ### Interpreters -/

/-- A tool and the arguments that come before all others. -/
abbrev Executable := Tool × List Text

/-- Whether a byte is a blank or a tabulator. -/
def isBlankByte (b : UInt8) : Bool := b == 32 || b == 9

/-- How many bytes of a file are looked at. A shorter file is filled up with zeros. -/
def lookedAt : Nat := 256

/-- The text of bytes up to the first zero. -/
def textUpToZero (bytes : List UInt8) : Text :=
  Text.Utf8.decodeLossy (bytes.takeWhile (· != 0))

/-- The line that names an interpreter, from behind its mark, within the bytes that are looked at.
If no line break is among them, the name at least must end there. -/
def interpreterLine? (bytes : List UInt8) : Option (List UInt8) :=
  let line := bytes.takeWhile fun b ↦ b != 10 && b != 0
  if bytes[line.length]? = some 10 then some line
  else if (bytes.dropWhile isBlankByte).any fun b ↦ isBlankByte b || b == 0 then
    some bytes.dropLast
  else none

/-- The interpreter that the first line of a file names, and its argument. -/
def interpreterOf? (content : List UInt8) : Option (Text × Option Text) :=
  match (content ++ List.replicate lookedAt 0).take lookedAt with
  | 35 :: 33 :: bytes => do
    let line ← interpreterLine? bytes
    let named := ((line.reverse.dropWhile isBlankByte).reverse).dropWhile isBlankByte
    let behind := named.dropWhile fun b ↦ !isBlankByte b && b != 0
    let argument :=
      if behind.head?.any isBlankByte then some (textUpToZero (behind.dropWhile isBlankByte))
      else none
    if named.isEmpty then none
    else return (textUpToZero (named.takeWhile fun b ↦ !isBlankByte b), argument)
  | _ => none

namespace Host

/-- What running a file comes to, with less than a number of interpreters. An interpreter without a
name is the working directory, which may not be run. -/
def executableUpTo (host : Host) (path : Path) : Nat → Except FileError Executable
  | 0 => .error .tooManyLinks
  | depth + 1 => do
    let place ← host.resolve path
    match host.at? place with
    | none => .error .notFound
    | some (.directory _) => .error .notPermitted
    | some (.file content marked) =>
      if !marked then .error .notPermitted
      else
        match Tool.ofImage? content, interpreterOf? content with
        | some tool, _ => .ok (tool, [])
        | none, none => .error .notExecutable
        | none, some (interpreter, argument) =>
          let (tool, leading) ←
            if interpreter.isEmpty then .error .notPermitted
            else host.executableUpTo ⟨interpreter⟩ depth
          return (tool, leading ++ argument.toList ++ [path.text])

/-- What running a file comes to. -/
def executable (host : Host) (path : Path) : Except FileError Executable :=
  host.executableUpTo path 6

/-- The result for the first of some files that can be run. Without one, it counts most that one may
not be run. -/
def firstExecutable (host : Host) (forbidden : Bool) : List Path → Except FileError Executable
  | [] => .error (if forbidden then .notPermitted else .notFound)
  | path :: rest =>
    match host.executable path with
    | .error .notPermitted => host.firstExecutable true rest
    | .error .notFound | .error .notADirectory => host.firstExecutable forbidden rest
    | result => result

/-- What running a command comes to. -/
def command (host : Host) (name : Text) : Except FileError Executable :=
  if name.contains '/' then host.executable ⟨name⟩
  else if name.isEmpty then .error .notFound
  else if nameLimit < Text.Utf8.size name then .error .nameTooLong
  else host.firstExecutable false (host.searchPath.map (·.child name))

end Host

end Dialogue
