import Dialogue.Config.Basic
import Dialogue.Yaml.Value

/-!
# Configurations as values

A configuration is a mapping of its entries by name (`Config.toValue`), where an entry that says
nothing is left out. A mapping is read as a configuration entry by entry (`Config.ofEntries`), and
the first one of the wrong kind is complained about. What a file says is laid over the standard
configuration (`Config.overlay`): its entries take the place of those of the same key, and the
others stay.
-/

set_option autoImplicit false
set_option relaxedAutoImplicit false

namespace Dialogue

open Yaml (Value)

namespace Config

/-! ### From configurations to values -/

/-- The name of an entry as a key. -/
def keyOf (name : String) : Value :=
  .text name.toList

/-- A list of texts as a value. -/
def listValue (texts : List Text) : Value :=
  .sequence (texts.map .text)

/-- The entries of a configuration by name. -/
def toEntries (config : Config) : List (Value × Value) :=
  (config.testSources.map fun path ↦ (keyOf "test_sources", Value.text path.text)).toList
    ++ (config.program.map fun name ↦ (keyOf "program", Value.text name)).toList
    ++ (if config.programArguments.isEmpty then []
      else [(keyOf "program_args", listValue config.programArguments)])
    ++ [(keyOf "test_pattern", .text config.testPattern),
      (keyOf "recursive", .boolean config.recursive),
      (keyOf "exclude", listValue config.exclude),
      (keyOf "log_dir", .text config.logDirectory.text),
      (keyOf "error_prefix", .text config.errorMark),
      (keyOf "info_prefix", .text config.infoMark),
      (keyOf "timeout_secs", .integer config.timeout)]

/-- A configuration as a value. -/
def toValue (config : Config) : Value :=
  .mapping config.toEntries

/-! ### Kinds of entries -/

/-- The complaint about a value that is not of the kind that is expected. -/
def wrongKind (value : Value) (expected : String) : Text :=
  "invalid type: ".toList ++ value.kind ++ ", expected ".toList ++ expected.toList

/-- The text that a value is. -/
def textOf (expected : String) (value : Value) : Except Text Text :=
  match value.untagged with
  | .text content => .ok content
  | other => .error (wrongKind other expected)

/-- The path that a value is. -/
def pathOf (value : Value) : Except Text Path :=
  (textOf "path string" value).map Path.mk

/-- The truth value that a value is. -/
def booleanOf (value : Value) : Except Text Bool :=
  match value.untagged with
  | .boolean b => .ok b
  | other => .error (wrongKind other "a boolean")

/-- The number of seconds that a value is. -/
def naturalOf (value : Value) : Except Text Nat :=
  match value.untagged with
  | .integer (.ofNat n) => .ok n
  | .integer n =>
    .error ("invalid value: ".toList ++ (Value.integer n).kind ++ ", expected u64".toList)
  | other => .error (wrongKind other "u64")

/-- The list of texts that a value is. Nothing is the empty list. -/
def textsOf (value : Value) : Except Text (List Text) :=
  match value.untagged with
  | .sequence items => items.mapM (textOf "a string")
  | .null => .ok []
  | other => .error (wrongKind other "a sequence")

/-- What a value is if it is not nothing. -/
def optional {α : Type} (read : Value → Except Text α) (value : Value) : Except Text (Option α) :=
  match value with
  | .null => .ok none
  | _ => (read value).map some

/-! ### From values to configurations -/

/-- A configuration with one entry set. Entries of unknown names are ignored. -/
def setEntry (config : Config) (name : Text) (value : Value) : Except Text Config :=
  match String.ofList name with
  | "test_sources" => do return { config with testSources := ← optional pathOf value }
  | "program" => do return { config with program := ← optional (textOf "a string") value }
  | "program_args" => do return { config with programArguments := ← textsOf value }
  | "test_pattern" => do return { config with testPattern := ← textOf "a string" value }
  | "recursive" => do return { config with recursive := ← booleanOf value }
  | "exclude" => do return { config with exclude := ← textsOf value }
  | "log_dir" => do return { config with logDirectory := ← pathOf value }
  | "error_prefix" => do return { config with errorMark := ← textOf "a string" value }
  | "info_prefix" => do return { config with infoMark := ← textOf "a string" value }
  | "timeout_secs" => do return { config with timeout := ← naturalOf value }
  | _ => .ok config

/-- The names of the entries of a configuration. -/
def entryNames : List Text :=
  ["test_sources", "program", "program_args", "test_pattern", "recursive", "exclude", "log_dir",
    "error_prefix", "info_prefix", "timeout_secs"].map String.toList

/-- A configuration with entries set one after the other. No entry may be set twice. -/
def setEntries (config : Config) (seen : List Text) : List (Value × Value) → Except Text Config
  | [] => .ok config
  | (key, value) :: rest => do
    let name ← textOf "field identifier" key
    if seen.contains name && entryNames.contains name then
      .error ("duplicate field \x60".toList ++ name ++ "\x60".toList)
    else
      setEntries (← config.setEntry name value) (name :: seen) rest

/-- The configuration that a mapping with all entries is. -/
def ofEntries (entries : List (Value × Value)) : Except Text Config :=
  standard.setEntries [] entries

/-- The entries of the standard configuration with others laid over them. -/
def overlay (entries : List (Value × Value)) : List (Value × Value) :=
  entries.foldl (fun merged (key, value) ↦ Value.set key value merged) standard.toEntries

/-- The configuration that a file says. What is no mapping says nothing. -/
def ofValue (value : Value) : Except Text Config :=
  match value with
  | .mapping entries => ofEntries (overlay entries)
  | _ => .ok standard

end Config

end Dialogue
