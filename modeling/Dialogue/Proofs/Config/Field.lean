import Dialogue.Config.Value
import Mathlib.Data.List.Nodup

/-!
# The fields of a configuration

A configuration has ten fields, each with a name, a way to read it from a value and a way to write
it. Setting one field leaves the others as they are (`get_set_of_ne`), an entry of a mapping sets
the field that it names and no other (`setEntry_eq_ok_iff`), and a field that is written is read
back as it was; one that is left out is that of the standard configuration (`read_of_write?`,
`get_of_write?`).
-/

set_option autoImplicit false
set_option relaxedAutoImplicit false

namespace Dialogue.Config

open Yaml (Value)

/-- A field of a configuration. -/
inductive Field where
  | testSources
  | program
  | programArguments
  | testPattern
  | recursive
  | exclude
  | logDirectory
  | errorMark
  | infoMark
  | timeout
  deriving DecidableEq

namespace Field

/-- The name of a field in a file. -/
def name : Field → Text
  | testSources => "test_sources".toList
  | program => "program".toList
  | programArguments => "program_args".toList
  | testPattern => "test_pattern".toList
  | recursive => "recursive".toList
  | exclude => "exclude".toList
  | logDirectory => "log_dir".toList
  | errorMark => "error_prefix".toList
  | infoMark => "info_prefix".toList
  | timeout => "timeout_secs".toList

/-- All fields, in the order in which they are written. -/
def all : List Field :=
  [testSources, program, programArguments, testPattern, recursive, exclude, logDirectory, errorMark,
    infoMark, timeout]

/-- What a field holds. -/
abbrev Content : Field → Type
  | testSources => Option Path
  | program => Option Text
  | programArguments | exclude => List Text
  | testPattern | errorMark | infoMark => Text
  | recursive => Bool
  | logDirectory => Path
  | timeout => Nat

/-- What a field of a configuration holds. -/
def get : (field : Field) → Config → field.Content
  | testSources => Config.testSources
  | program => Config.program
  | programArguments => Config.programArguments
  | testPattern => Config.testPattern
  | recursive => Config.recursive
  | exclude => Config.exclude
  | logDirectory => Config.logDirectory
  | errorMark => Config.errorMark
  | infoMark => Config.infoMark
  | timeout => Config.timeout

/-- A configuration with one field set. -/
def set : (field : Field) → field.Content → Config → Config
  | testSources => fun content config ↦ { config with testSources := content }
  | program => fun content config ↦ { config with program := content }
  | programArguments => fun content config ↦ { config with programArguments := content }
  | testPattern => fun content config ↦ { config with testPattern := content }
  | recursive => fun content config ↦ { config with recursive := content }
  | exclude => fun content config ↦ { config with exclude := content }
  | logDirectory => fun content config ↦ { config with logDirectory := content }
  | errorMark => fun content config ↦ { config with errorMark := content }
  | infoMark => fun content config ↦ { config with infoMark := content }
  | timeout => fun content config ↦ { config with timeout := content }

/-- What a value says about a field. -/
def read : (field : Field) → Value → Except Text field.Content
  | testSources => optional pathOf
  | program => optional (textOf "a string")
  | programArguments | exclude => textsOf
  | testPattern | errorMark | infoMark => textOf "a string"
  | recursive => booleanOf
  | logDirectory => pathOf
  | timeout => naturalOf

/-- The value as which a field of a configuration is written, if it is not left out. -/
def write? (config : Config) : Field → Option Value
  | testSources => config.testSources.map fun path ↦ .text path.text
  | program => config.program.map .text
  | programArguments =>
    if config.programArguments.isEmpty then none else some (listValue config.programArguments)
  | testPattern => some (.text config.testPattern)
  | recursive => some (.boolean config.recursive)
  | exclude => some (listValue config.exclude)
  | logDirectory => some (.text config.logDirectory.text)
  | errorMark => some (.text config.errorMark)
  | infoMark => some (.text config.infoMark)
  | timeout => some (.integer config.timeout)

/-! ### Getting and setting -/

variable {field other : Field} {config next : Config} {value : Value}

@[simp]
theorem get_set (field : Field) (content : field.Content) (config : Config) :
    field.get (field.set content config) = content := by
  cases field <;> rfl

theorem get_set_of_ne (h : other ≠ field) (content : field.Content) (config : Config) :
    other.get (field.set content config) = other.get config := by
  cases field <;> cases other <;> first | rfl | exact absurd rfl h

/-- A configuration is made up of its fields. -/
theorem ext_get {first second : Config} (h : ∀ field : Field, field.get first = field.get second) :
    first = second := by
  obtain ⟨⟩ := first
  obtain ⟨⟩ := second
  rw [Config.mk.injEq]
  exact ⟨h testSources, h program, h programArguments, h testPattern, h recursive, h exclude,
    h logDirectory, h errorMark, h infoMark, h timeout⟩

/-! ### Names -/

theorem mem_all (field : Field) : field ∈ all := by
  cases field <;> decide

theorem map_name_all : all.map name = entryNames := rfl

theorem nodup_names : (all.map name).Nodup := by decide

theorem name_injective {field other : Field} (h : field.name = other.name) : field = other :=
  List.inj_on_of_nodup_map nodup_names (mem_all field) (mem_all other) h

theorem mem_entryNames {name : Text} : name ∈ entryNames ↔ ∃ field : Field, field.name = name := by
  rw [← map_name_all, List.mem_map]
  exact ⟨fun ⟨field, _, h⟩ ↦ ⟨field, h⟩, fun ⟨field, h⟩ ↦ ⟨field, mem_all field, h⟩⟩

end Field

/-! ### Setting an entry -/

variable {field : Field} {config next : Config} {name : Text} {value : Value}

/-- An entry with the name of a field sets it to what its value says. -/
theorem setEntry_name (config : Config) (field : Field) (value : Value) :
    config.setEntry field.name value =
      (field.read value).map fun content ↦ field.set content config := by
  cases field <;> rfl

/-- An entry with another name sets nothing. -/
theorem setEntry_of_notMem (h : name ∉ entryNames) : config.setEntry name value = .ok config := by
  unfold setEntry
  split
  case h_11 => rfl
  all_goals
    next heq =>
      refine absurd ?_ h
      rw [← String.toList_ofList (l := name), heq]
      decide

/-- An entry sets the field that it names, if it names one, and leaves the others. -/
theorem setEntry_eq_ok_iff :
    config.setEntry name value = .ok next ↔
      ∀ field : Field, (name = field.name → field.read value = .ok (field.get next)) ∧
        (name ≠ field.name → field.get next = field.get config) := by
  by_cases hname : name ∈ entryNames
  · obtain ⟨field, rfl⟩ := Field.mem_entryNames.mp hname
    rw [setEntry_name]
    constructor
    · intro h other
      rcases hread : field.read value with error | content
      · rw [hread] at h
        contradiction
      · rw [hread] at h
        obtain rfl : field.set content config = next := Except.ok.inj h
        constructor
        · intro heq
          obtain rfl := Field.name_injective heq
          rw [hread, Field.get_set]
        · intro hne
          have hother : other ≠ field := fun heq ↦ hne (congrArg Field.name heq.symm)
          exact Field.get_set_of_ne hother content config
    · intro h
      rw [(h field).1 rfl]
      refine congrArg Except.ok (Field.ext_get fun other ↦ ?_)
      by_cases heq : other = field
      · rw [heq, Field.get_set]
      · rw [Field.get_set_of_ne heq, (h other).2 fun hname ↦ heq (Field.name_injective hname).symm]
  · have hne (field : Field) : name ≠ field.name :=
      fun heq ↦ hname (Field.mem_entryNames.mpr ⟨field, heq.symm⟩)
    rw [setEntry_of_notMem hname]
    constructor
    · intro h field
      obtain rfl := Except.ok.inj h
      exact ⟨fun heq ↦ absurd heq (hne field), fun _ ↦ rfl⟩
    · intro h
      exact congrArg Except.ok (Field.ext_get fun field ↦ ((h field).2 (hne field)).symm)

/-! ### Writing and reading again -/

/-- A list of texts is read as it was written. -/
theorem textsOf_listValue (texts : List Text) : textsOf (listValue texts) = .ok texts := by
  change (texts.map Value.text).mapM (textOf "a string") = .ok texts
  induction texts with
  | nil => rfl
  | cons text texts ih =>
    rw [List.map_cons, List.mapM_cons, ih]
    rfl

/-- A field is read as it was written. -/
theorem Field.read_of_write? (h : field.write? config = some value) :
    field.read value = .ok (field.get config) := by
  cases field with
  | testSources =>
    obtain ⟨path, hpath, rfl⟩ := Option.map_eq_some_iff.mp h
    exact congrArg Except.ok hpath.symm
  | program =>
    obtain ⟨text, htext, rfl⟩ := Option.map_eq_some_iff.mp h
    exact congrArg Except.ok htext.symm
  | programArguments =>
    unfold write? at h
    split_ifs at h
    obtain rfl := Option.some.inj h
    exact textsOf_listValue config.programArguments
  | exclude =>
    obtain rfl := Option.some.inj h
    exact textsOf_listValue config.exclude
  | _ =>
    obtain rfl := Option.some.inj h
    rfl

/-- A field that is left out holds what it holds in the standard configuration. -/
theorem Field.get_of_write? (h : field.write? config = none) :
    field.get config = field.get standard := by
  cases field with
  | testSources => exact Option.map_eq_none_iff.mp h
  | program => exact Option.map_eq_none_iff.mp h
  | programArguments =>
    unfold write? at h
    split_ifs at h with hempty
    exact List.isEmpty_iff.mp hempty
  | _ => contradiction

/-- What the standard configuration does not leave out, no configuration does. -/
theorem Field.isSome_write? (config : Config) (h : (field.write? standard).isSome = true) :
    (field.write? config).isSome = true := by
  cases field <;> first | rfl | contradiction

/-- The entries of a configuration are its fields, with their names, but for those left out. -/
theorem toEntries_eq (config : Config) :
    config.toEntries =
      Field.all.filterMap fun field ↦ (field.write? config).map fun value ↦
        (.text field.name, value) := by
  obtain ⟨testSources, program, programArguments⟩ := config
  cases testSources <;> cases program <;> cases programArguments <;> rfl

theorem mem_toEntries {entry : Value × Value} :
    entry ∈ config.toEntries ↔
      ∃ field : Field, ∃ value, field.write? config = some value ∧
        entry = (.text field.name, value) := by
  rw [toEntries_eq, List.mem_filterMap]
  constructor
  · rintro ⟨field, -, h⟩
    obtain ⟨value, hvalue, rfl⟩ := Option.map_eq_some_iff.mp h
    exact ⟨field, value, hvalue, rfl⟩
  · rintro ⟨field, value, hvalue, rfl⟩
    exact ⟨field, Field.mem_all field, by rw [hvalue]; rfl⟩

/-- No two entries of a configuration have the same name. -/
theorem nodup_keys_toEntries (config : Config) : (config.toEntries.map Prod.fst).Nodup := by
  have hkeys : (config.toEntries.map Prod.fst).Sublist (Field.all.map fun f ↦ .text f.name) := by
    rw [toEntries_eq, List.map_filterMap]
    generalize Field.all = fields
    induction fields with
    | nil => exact .slnil
    | cons field fields ih =>
      rw [List.filterMap_cons, List.map_cons]
      rcases field.write? config with _ | value
      · exact ih.cons _
      · exact ih.cons_cons _
  have hnames := Field.nodup_names.map fun _ _ h ↦ Yaml.Value.text.inj h
  rw [List.map_map] at hnames
  exact hkeys.nodup hnames

end Dialogue.Config
