import Dialogue.Config.File
import Dialogue.Proofs.Files.Remains

/-!
# Finding a configuration by its name

Whether a configuration is found on the way up from a directory, and which one, depends on the files
of the usual name alone (`Config.fileAbove?_congr`). For the working directory that holds on every
host whose working directory can be named (`Host.Placed`), and it stays so as long as no directory
goes away: where the same files have the name, the same one is found
(`Host.Placed.fileFrom?_congr`), and one in the working directory itself comes before all others
(`Host.Placed.fileFrom?_of_file`).
-/

set_option autoImplicit false
set_option relaxedAutoImplicit false

namespace Dialogue

/-- The working directory is there, its path leads to it, and the path of a configuration in it is
not too long. -/
structure Host.Placed (host : Host) : Prop where
  resolve_eq : host.resolve host.workingPath = .ok host.workingDirectory
  isDirectoryAt : host.isDirectoryAt host.workingDirectory = true
  flawless : Host.flawOf? (host.workingPath.child Config.fileName) = none

namespace Config

variable {host other : Host} {path : Path} {names : List Text}

theorem isEntryName_fileName : fileName.IsEntryName := by
  decide +kernel

theorem size_fileName_le : Text.Utf8.size fileName ≤ Host.nameLimit := by
  decide +kernel

/-- The configuration that is found by its name on the way up depends on the files of that name
only. -/
theorem fileAbove?_congr (hnames : Proper names.reverse)
    (hfiles : ∀ place : Location, (other.fileAt? (place ++ [fileName])).isSome =
      (host.fileAt? (place ++ [fileName])).isSome) :
    fileAbove? other names = fileAbove? host names := by
  have hcandidate {names : List Text} (hnames : Proper names.reverse) :
      fileAbove?.candidate other names = fileAbove?.candidate host names := by
    have hfile : other.isFile ((Host.pathOf names.reverse).child fileName) =
        host.isFile ((Host.pathOf names.reverse).child fileName) := by
      rw [Bool.eq_iff_iff, Host.isFile_child_pathOf_iff hnames isEntryName_fileName,
        Host.isFile_child_pathOf_iff hnames isEntryName_fileName, hfiles]
    rw [fileAbove?.candidate, fileAbove?.candidate, hfile]
  induction names with
  | nil => exact hcandidate hnames
  | cons name above ih =>
    have habove : Proper above.reverse := by
      rw [List.reverse_cons] at hnames
      exact hnames.of_append
    rw [fileAbove?, fileAbove?, hcandidate hnames, ih habove]

/-- What is found by its name on the way up is a file of that name in a directory. -/
theorem exists_of_fileAbove? (hnames : Proper names.reverse)
    (h : fileAbove? host names = some path) :
    ∃ directory, Proper directory ∧ path = (Host.pathOf directory).child fileName ∧
      host.isFile path = true := by
  have hcandidate {names : List Text} (hnames : Proper names.reverse)
      (h : fileAbove?.candidate host names = some path) :
      ∃ directory, Proper directory ∧ path = (Host.pathOf directory).child fileName ∧
        host.isFile path = true := by
    rw [fileAbove?.candidate] at h
    split_ifs at h with hfile
    obtain rfl := Option.some.inj h
    exact ⟨_, hnames, rfl, hfile⟩
  induction names with
  | nil => exact hcandidate hnames h
  | cons name above ih =>
    rw [fileAbove?] at h
    rcases Option.or_eq_some_iff.mp h with h | ⟨-, h⟩
    · exact hcandidate hnames h
    · rw [List.reverse_cons] at hnames
      exact ih hnames.of_append h

end Config

namespace Host.Placed

variable {host other : Host} {path : Path} {changed : Location → Prop}

theorem proper (h : host.Placed) : Proper host.workingDirectory :=
  proper_of_resolve (isAbsolute_pathOf _) h.resolve_eq

theorem fileFrom?_eq (h : host.Placed) :
    Config.fileFrom? host host.workingPath =
      Config.fileAbove? host host.workingDirectory.reverse := by
  have hthere : (host.at? host.workingDirectory).isSome = true := by
    have hdirectory := h.isDirectoryAt
    change (host.at? _).any Tree.isDirectory = true at hdirectory
    exact Option.isSome_of_any hdirectory
  rw [Config.fileFrom?, h.resolve_eq]
  dsimp only
  rw [if_pos hthere]

theorem of_changesOnly (h : host.Placed) (hother : host.ChangesOnly changed other) :
    other.Placed where
  resolve_eq := by
    rw [workingPath, hother.workingDirectory]
    exact hother.toKeeps.resolve h.resolve_eq
  isDirectoryAt := by
    rw [hother.workingDirectory]
    exact hother.isDirectoryAt _ h.isDirectoryAt
  flawless := by
    rw [workingPath, hother.workingDirectory]
    exact h.flawless

/-- Where the same files have the name of a configuration, the same one is found. -/
theorem fileFrom?_congr (h : host.Placed) (hother : host.ChangesOnly changed other)
    (hfiles : ∀ place : Location, (other.fileAt? (place ++ [Config.fileName])).isSome =
      (host.fileAt? (place ++ [Config.fileName])).isSome) :
    Config.fileFrom? other other.workingPath = Config.fileFrom? host host.workingPath := by
  rw [(h.of_changesOnly hother).fileFrom?_eq, h.fileFrom?_eq, hother.workingDirectory]
  refine Config.fileAbove?_congr ?_ hfiles
  rw [List.reverse_reverse]
  exact h.proper

/-- The path of a configuration in the working directory leads there. -/
theorem resolve_child (h : host.Placed) :
    host.resolve (host.workingPath.child Config.fileName) =
      .ok (host.workingDirectory ++ [Config.fileName]) := by
  have henters : host.Enters host.workingPath host.workingDirectory :=
    (enters_pathOf_iff h.proper).mpr ⟨rfl, h.isDirectoryAt⟩
  exact (resolve_child_eq_ok_iff Config.isEntryName_fileName).mpr
    ⟨h.flawless, Config.size_fileName_le, _, henters, rfl⟩

theorem parentOrCurrent_child (h : host.Placed) :
    (host.workingPath.child Config.fileName).parentOrCurrent = host.workingPath :=
  parentOrCurrent_child_pathOf (fun name hmem ↦ (h.proper name hmem).1)
    Config.isEntryName_fileName

/-- A configuration in the working directory is found there. -/
theorem fileFrom?_of_file (h : host.Placed)
    (hfile : (host.fileAt? (host.workingDirectory ++ [Config.fileName])).isSome = true) :
    Config.fileFrom? host host.workingPath = some (host.workingPath.child Config.fileName) := by
  have hhere : host.isFile (host.workingPath.child Config.fileName) = true :=
    (isFile_child_pathOf_iff h.proper Config.isEntryName_fileName).mpr
      ⟨h.flawless, Config.size_fileName_le, hfile⟩
  have hcandidate : Config.fileAbove?.candidate host host.workingDirectory.reverse =
      some (host.workingPath.child Config.fileName) := by
    rw [Config.fileAbove?.candidate, List.reverse_reverse]
    exact if_pos hhere
  rw [h.fileFrom?_eq]
  rcases hnames : host.workingDirectory.reverse with _ | ⟨name, above⟩
  · rw [hnames] at hcandidate
    exact hcandidate
  · rw [hnames] at hcandidate
    rw [Config.fileAbove?, hcandidate, Option.some_or]

end Host.Placed

end Dialogue
