import Dialogue.Proofs.Files.Components
import Dialogue.Proofs.Files.Contents

/-!
# Absolute paths

The path of a place writes the names on the way to it one after the other. It leads to its place as
soon as the directories are there (`Host.enters_pathOf_iff`), if the names are such as a path can
lead through (`Proper`), which all are that a path has been resolved to (`Host.proper_of_resolve`).
So whether there is a file of some name in a directory of which the place is known depends on the
file at that place alone (`Host.isFile_child_pathOf_iff`), and the directory of such a file is the
one that was named (`Path.parentOrCurrent_child_pathOf`).
-/

set_option autoImplicit false
set_option relaxedAutoImplicit false

namespace Dialogue

open Text (splitOn)

/-- A place to which paths can lead: on the way to it there are names of entries, none of them too
long. -/
def Proper (place : Location) : Prop :=
  ∀ name ∈ place, name.IsEntryName ∧ Text.Utf8.size name ≤ Host.nameLimit

theorem Proper.of_append {place below : Location} (h : Proper (place ++ below)) : Proper place :=
  fun name hmem ↦ h name (List.mem_append_left below hmem)

namespace Path

variable {name : Text} {place : Location}

/-- One more name ends behind those in front of it. -/
theorem locate_concat_name (offset : Nat) (hplace : ∀ name ∈ place, name.IsEntryName)
    (hname : name.IsEntryName) :
    locate false offset (place ++ [name]) = locate false offset place ++
      [(.name name, offset + (place.flatMap fun step ↦ '/' :: step).length + name.length)] := by
  have hcomponent {step : Text} (hstep : step.IsEntryName) :
      componentOf? false step = some (.name step) := by
    rw [componentOf?, if_neg hstep.ne_nil, if_neg hstep.ne_current, if_neg hstep.ne_parent]
  induction place generalizing offset with
  | nil => simp [locate, hcomponent hname]
  | cons step place ih =>
    obtain ⟨hstep, hplace⟩ := List.forall_mem_cons.mp hplace
    have hlater := ih (offset + step.length + 1) hplace
    simp only [List.cons_append, locate, hcomponent hstep, hlater, List.flatMap_cons,
      List.length_append, List.length_cons, List.cons.injEq, List.append_cancel_left_eq,
      Prod.mk.injEq, true_and, and_true]
    omega

end Path

namespace Host

variable {host : Host} {place target directory : Location} {name : Text}

theorem isAbsolute_pathOf (place : Location) : (pathOf place).isAbsolute = true := by
  cases place <;> rfl

/-- Names behind a text are pieces of their own. -/
theorem splitOn_append_names (start : Text) (hplace : ∀ name ∈ place, '/' ∉ name) :
    splitOn '/' (start ++ place.flatMap fun step ↦ '/' :: step) = splitOn '/' start ++ place := by
  induction place using List.reverseRecOn with
  | nil => simp
  | append_singleton place name ih =>
    obtain ⟨hplace, hname⟩ := List.forall_mem_append.mp hplace
    rw [List.flatMap_append, List.flatMap_singleton, ← List.append_assoc, Text.splitOn_append_cons,
      ih hplace, Text.splitOn_of_notMem (hname name (List.mem_singleton_self name)),
      List.append_assoc]

/-- The path of a place names what leads there, behind the root. -/
theorem way_pathOf (hplace : ∀ name ∈ place, name.IsEntryName) :
    (pathOf place).way = [] :: place := by
  rcases List.eq_nil_or_concat place with rfl | ⟨init, last, rfl⟩
  · rfl
  rw [List.concat_eq_append] at hplace ⊢
  have hlast := hplace last (List.mem_append_right init (List.mem_singleton_self last))
  have htext : (pathOf (init ++ [last])).text =
      (init ++ [last]).flatMap fun step ↦ '/' :: step := by
    rw [pathOf, if_neg (List.append_ne_nil_of_right_ne_nil _ (List.cons_ne_nil _ _))]
  have hne : (pathOf (init ++ [last])).text ≠ [] := by
    rw [htext, List.flatMap_append, List.flatMap_singleton]
    exact List.append_ne_nil_of_right_ne_nil _ (List.cons_ne_nil _ _)
  have hend : (pathOf (init ++ [last])).text.getLast? ≠ some '/' := by
    rw [htext, List.flatMap_append, List.flatMap_singleton, ← List.singleton_append,
      ← List.append_assoc, List.getLast?_append_of_ne_nil _ hlast.ne_nil]
    exact fun h ↦ hlast.separator_notMem (List.mem_of_getLast? h)
  rw [Path.way, if_neg hne, if_neg hend, htext, ← List.nil_append (List.flatMap _ _),
    splitOn_append_names [] fun name hmem ↦ (hplace name hmem).separator_notMem]
  rfl

/-! ### Walking by names -/

theorem advance_proper {piece : Text} (hpiece : '/' ∉ piece) (hplace : Proper place)
    (h : advance place piece = .ok target) : Proper target := by
  rw [advance] at h
  split_ifs at h with hstays hback hlong
  · exact Except.ok.inj h ▸ hplace
  · obtain rfl := Except.ok.inj h
    exact fun name hmem ↦ hplace name ((List.dropLast_sublist place).subset hmem)
  · obtain rfl := Except.ok.inj h
    obtain ⟨hempty, hcurrent⟩ := not_or.mp hstays
    refine List.forall_mem_append.mpr ⟨hplace, List.forall_mem_singleton.mpr ?_⟩
    exact ⟨⟨hpiece, hempty, hcurrent, hback⟩, Nat.le_of_not_lt hlong⟩

theorem walk_proper {pieces : List Text} (hpieces : ∀ piece ∈ pieces, '/' ∉ piece)
    (hplace : Proper place) (h : host.walk place pieces = .ok target) : Proper target := by
  induction pieces generalizing place with
  | nil => exact Except.ok.inj h ▸ hplace
  | cons piece pieces ih =>
    obtain ⟨hpiece, hpieces⟩ := List.forall_mem_cons.mp hpieces
    rw [walk_cons] at h
    rcases hstep : host.step place piece with error | next
    · rw [hstep] at h
      contradiction
    · rw [hstep] at h
      exact ih hpieces (advance_proper hpiece hplace (step_eq_ok_iff.mp hstep).2) h

/-- Paths that start at the root lead to proper places only. -/
theorem proper_of_resolve {path : Path} (habsolute : path.isAbsolute = true)
    (h : host.resolve path = .ok place) : Proper place := by
  rw [resolve_eq] at h
  split at h
  · contradiction
  rw [originOf, if_pos habsolute] at h
  exact walk_proper (Text.separator_notMem_of_mem_splitOn '/' path.text)
    (fun _ hmem ↦ absurd hmem List.not_mem_nil) h

/-- Names lead on as far as there are directories. -/
theorem walk_names {names : Location} (hnames : Proper names)
    (h : host.isDirectoryAt (place ++ names) = true) :
    host.walk place names = .ok (place ++ names) := by
  induction names using List.reverseRecOn with
  | nil => rw [List.append_nil]; rfl
  | append_singleton names name ih =>
    rw [← List.append_assoc] at h ⊢
    have hbetween := Tree.isDirectoryAt_of_prefix h (List.prefix_append _ _)
    obtain ⟨hname, hshort⟩ := hnames name (List.mem_append_right names (List.mem_singleton_self _))
    exact walk_concat_eq_ok_iff.mpr ⟨_, ih hnames.of_append hbetween, hbetween,
      (advance_name_eq_ok_iff hname).mpr ⟨hshort, rfl⟩⟩

/-- Names lead nowhere else. -/
theorem eq_of_walk_names {names : Location} (hnames : Proper names)
    (h : host.walk place names = .ok target) : target = place ++ names := by
  induction names using List.reverseRecOn generalizing target with
  | nil => rw [List.append_nil]; exact (Except.ok.inj h).symm
  | append_singleton names name ih =>
    obtain ⟨between, hwalk, -, hadvance⟩ := walk_concat_eq_ok_iff.mp h
    obtain ⟨hname, -⟩ := hnames name (List.mem_append_right names (List.mem_singleton_self _))
    rw [((advance_name_eq_ok_iff hname).mp hadvance).2, ih hnames.of_append hwalk,
      List.append_assoc]

/-- The path of a place leads to it if there is a directory. -/
theorem enters_pathOf_iff (hdirectory : Proper directory) :
    host.Enters (pathOf directory) place ↔
      place = directory ∧ host.isDirectoryAt directory = true := by
  have hwalk : host.walk (host.originOf (pathOf directory)) (pathOf directory).way =
      (host.step [] []).bind fun start ↦ host.walk start directory := by
    rw [originOf, if_pos (isAbsolute_pathOf directory),
      way_pathOf fun name hmem ↦ (hdirectory name hmem).1, walk_cons]
  constructor
  · rintro ⟨henters, hthere⟩
    rw [hwalk] at henters
    rcases hstep : host.step [] [] with error | start
    · rw [hstep] at henters
      contradiction
    · rw [hstep] at henters
      obtain rfl : [] = start := Except.ok.inj (step_eq_ok_iff.mp hstep).2
      obtain rfl := eq_of_walk_names hdirectory henters
      exact ⟨rfl, hthere⟩
  · rintro ⟨rfl, hthere⟩
    refine ⟨?_, hthere⟩
    have hroot := Tree.isDirectoryAt_of_prefix hthere List.nil_prefix
    rw [hwalk, step_eq_ok_iff.mpr ⟨hroot, rfl⟩]
    exact walk_names hdirectory hthere

/-! ### Files -/

/-- There is a file where a path leads to one. -/
theorem isFile_iff {path : Path} :
    host.isFile path = true ↔
      ∃ place, host.resolve path = .ok place ∧ (host.fileAt? place).isSome = true := by
  rw [isFile, lookup?]
  rcases host.resolve path with error | place
  · simp
  · simp only [Except.ok.injEq, exists_eq_left', fileAt?, Tree.fileAt?, at?]
    rcases host.tree.find? place with _ | ⟨content, executable⟩ | entries <;>
      simp [Tree.isFile]

theorem isDirectoryAt_of_fileAt? {below : Location} (hbelow : below ≠ [])
    (h : (host.fileAt? (place ++ below)).isSome = true) : host.isDirectoryAt place = true := by
  by_contra hnone
  rw [fileAt?_below (Bool.eq_false_iff.mpr hnone) hbelow] at h
  contradiction

/-- A file is found by its name in a directory of which the place is known. -/
theorem isFile_child_pathOf_iff (hdirectory : Proper directory) (hname : name.IsEntryName) :
    host.isFile ((pathOf directory).child name) = true ↔
      flawOf? ((pathOf directory).child name) = none ∧ Text.Utf8.size name ≤ nameLimit ∧
        (host.fileAt? (directory ++ [name])).isSome = true := by
  simp only [isFile_iff, resolve_child_eq_ok_iff hname, enters_pathOf_iff hdirectory]
  constructor
  · rintro ⟨_, ⟨hflaw, hshort, _, ⟨rfl, -⟩, rfl⟩, hfile⟩
    exact ⟨hflaw, hshort, hfile⟩
  · rintro ⟨hflaw, hshort, hfile⟩
    have hthere := isDirectoryAt_of_fileAt? (List.cons_ne_nil name []) hfile
    exact ⟨_, ⟨hflaw, hshort, directory, ⟨rfl, hthere⟩, rfl⟩, hfile⟩

/-- The directory part of the path of an entry is the directory. -/
theorem parentOrCurrent_child_pathOf (hdirectory : ∀ name ∈ directory, name.IsEntryName)
    (hname : name.IsEntryName) :
    ((pathOf directory).child name).parentOrCurrent = pathOf directory := by
  have hlocated : ((pathOf directory).child name).located =
      (.root, 1) :: Path.locate false 1 (directory ++ [name]) := by
    rw [Path.located, Path.isAbsolute_child hname.separator_notMem,
      if_pos (isAbsolute_pathOf directory), Path.splitOn_child hname.separator_notMem,
      way_pathOf hdirectory]
    rfl
  have hprefix := Path.text_prefix_child (pathOf directory) hname.separator_notMem
  -- The component in front of the name ends where the directory does.
  have hreverse : ∃ stop before rest, ((pathOf directory).child name).located.reverse =
      (.name name, stop) :: (before, (pathOf directory).text.length) :: rest := by
    rw [hlocated, Path.locate_concat_name 1 hdirectory hname]
    rcases List.eq_nil_or_concat directory with rfl | ⟨init, last, rfl⟩
    · exact ⟨_, _, _, rfl⟩
    · rw [List.concat_eq_append] at hdirectory ⊢
      obtain ⟨hinit, hlast⟩ := List.forall_mem_append.mp hdirectory
      have hlast := hlast last (List.mem_singleton_self last)
      have htext : (pathOf (init ++ [last])).text.length =
          1 + (init.flatMap fun step ↦ '/' :: step).length + last.length := by
        rw [pathOf, if_neg (List.append_ne_nil_of_right_ne_nil _ (List.cons_ne_nil _ _))]
        simp only [List.flatMap_append, List.flatMap_singleton, List.length_append,
          List.length_cons]
        omega
      rw [Path.locate_concat_name 1 hinit hlast, htext, List.reverse_cons, List.reverse_append,
        List.reverse_append]
      exact ⟨_, _, _, rfl⟩
  obtain ⟨stop, before, rest, hreverse⟩ := hreverse
  have hparent : ((pathOf directory).child name).parent? = some (pathOf directory) := by
    rw [Path.parent?, hreverse]
    exact congrArg (some ∘ Path.mk) (List.prefix_iff_eq_take.mp hprefix).symm
  rw [Path.parentOrCurrent, hparent, Option.getD_some]

end Host

end Dialogue
