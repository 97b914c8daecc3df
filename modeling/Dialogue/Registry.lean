import Dialogue.Executable
import Dialogue.External
import Dialogue.Setup

/-!
# Registries

A registry holds the programs that live inside the harness, in the order of their names. A name
that is not among them stands for an executable: one with several components is the path of a file,
and any other one is looked for in the directories of the search path (`Registry.resolve`).
-/

set_option autoImplicit false
set_option relaxedAutoImplicit false

namespace Dialogue

/-- The programs inside the harness. -/
structure Registry where
  programs : List Program

instance : Inhabited Registry := ⟨⟨[]⟩⟩

namespace Registry

/-- A registry without programs. -/
def empty : Registry := ⟨[]⟩

/-- A list in the order of names with a program at its place, where it replaces one of its name. -/
def insert (program : Program) : List Program → List Program
  | [] => [program]
  | other :: rest =>
    if program.name = other.name then program :: rest
    else if program.name < other.name then program :: other :: rest
    else other :: insert program rest

/-- A registry with one more program, which replaces one of its name. -/
def register (registry : Registry) (program : Program) : Registry :=
  ⟨insert program registry.programs⟩

/-- The registry of the programs that are always there. -/
def builtin : Registry := empty.register .echo

/-- The program of a name. -/
def get? (registry : Registry) (name : Text) : Option Program :=
  registry.programs.find? fun program ↦ program.name == name

/-- The names of all programs, in their order. -/
def names (registry : Registry) : List Text :=
  registry.programs.map Program.name

/-- How a program inside the harness describes itself. -/
def describe (program : Program) : Text :=
  "FnProgram \x7b name: ".toList ++ Text.quoted program.name ++ " \x7d".toList

/-! ### Executables -/

/-- How executables are run. -/
structure Options where
  /-- The arguments in front of those of a script. -/
  arguments : List Text
  /-- The limit, if it is not the usual one. -/
  limit : Option Duration
  deriving Repr, DecidableEq, Inhabited

/-- Whether a path leads to a file that is marked as executable. -/
def isExecutable (host : Host) (path : Path) : Bool :=
  match host.lookup? path with
  | some (.file _ marked) => marked
  | _ => false

/-- The path of the executable that a name stands for. -/
def executable? (host : Host) (name : Text) : Option Path :=
  let path : Path := ⟨name⟩
  if path.components.length > 1 then (if host.isFile path then some path else none)
  else (host.searchPath.map (·.child name)).find? (isExecutable host)

/-- The program that a name stands for. -/
def resolve (registry : Registry) (host : Host) (name : Text) (options : Options) :
    Except SetupError Program :=
  match registry.get? name with
  | some program => .ok program
  | none =>
    match executable? host name with
    | none => .error (.unknownProgram name)
    | some path =>
      let external : External :=
        ⟨path, options.arguments, none, options.limit.getD External.standardLimit⟩
      .ok (external.program host)

end Registry

end Dialogue
