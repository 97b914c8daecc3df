import Dialogue.Proofs.Files.Walk

/-!
# Files in a directory

The path of an entry of a directory leads through the directory to the name of the entry
(`resolve_child_eq_ok_iff`), however the path of the directory is written. `Host.Takes` says that a
file of a name can be written there, and `writeText_child_eq_ok_iff` that it is written exactly
then, which makes the host `Host.withFile`.

A file that is written leaves the directory and everything else in it as they were: the directory is
there and need not be made (`Takes.makeDirectories_eq`), it takes what it took before
(`Takes.withFile`), its other files say what they said (`readText_withFile_of_ne`), and the new one
says what was written (`readText_withFile_self`).
-/

set_option autoImplicit false
set_option relaxedAutoImplicit false

namespace Dialogue

open Text (splitOn)

/-! ### Paths of entries -/

/-- What an entry of a directory may be called: a name without separators that stands for no
directory. -/
structure Text.IsEntryName (name : Text) : Prop where
  separator_notMem : '/' ∉ name
  ne_nil : name ≠ []
  ne_current : name ≠ ['.']
  ne_parent : name ≠ ['.', '.']

instance (name : Text) : Decidable name.IsEntryName :=
  decidable_of_iff ('/' ∉ name ∧ name ≠ [] ∧ name ≠ ['.'] ∧ name ≠ ['.', '.'])
    ⟨fun ⟨h₁, h₂, h₃, h₄⟩ ↦ ⟨h₁, h₂, h₃, h₄⟩, fun ⟨h₁, h₂, h₃, h₄⟩ ↦ ⟨h₁, h₂, h₃, h₄⟩⟩

namespace Path

/-- The pieces of a path that stand in front of the name of an entry. -/
def way (directory : Path) : List Text :=
  if directory.text = [] then []
  else if directory.text.getLast? = some '/' then splitOn '/' directory.text.dropLast
  else splitOn '/' directory.text

variable {directory : Path} {name : Text}

theorem isAbsolute_of_name (h : '/' ∉ name) : isAbsolute ⟨name⟩ = false := by
  refine beq_eq_false_iff_ne.mpr fun hhead ↦ ?_
  exact h (List.mem_of_head? hhead)

theorem child_eq (h : '/' ∉ name) :
    directory.child name =
      if directory.text = [] ∨ directory.text.getLast? = some '/' then ⟨directory.text ++ name⟩
      else ⟨directory.text ++ '/' :: name⟩ := by
  rw [child, join, if_neg (by simp [isAbsolute_of_name h])]

/-- The text of a directory stands in front of the path of its entries. -/
theorem text_prefix_child (directory : Path) (h : '/' ∉ name) :
    directory.text <+: (directory.child name).text := by
  rw [child_eq h]
  split_ifs <;> exact List.prefix_append _ _

/-- The path of an entry leads on by its name. -/
theorem splitOn_child (h : '/' ∉ name) :
    splitOn '/' (directory.child name).text = directory.way ++ [name] := by
  have hname : splitOn '/' name = [name] := Text.splitOn_of_notMem h
  rw [child_eq h, way]
  by_cases hempty : directory.text = []
  · rw [if_pos (.inl hempty), if_pos hempty, hempty, List.nil_append, hname, List.nil_append]
  · rw [if_neg hempty]
    by_cases hlast : directory.text.getLast? = some '/'
    · obtain ⟨above, habove⟩ := List.getLast?_eq_some_iff.mp hlast
      rw [if_pos (.inr hlast), if_pos hlast, habove, List.dropLast_concat, List.append_assoc,
        List.singleton_append, Text.splitOn_append_cons, hname]
    · rw [if_neg (not_or.mpr ⟨hempty, hlast⟩), if_neg hlast, Text.splitOn_append_cons, hname]

/-- An entry starts where its directory does. -/
theorem isAbsolute_child (h : '/' ∉ name) :
    (directory.child name).isAbsolute = directory.isAbsolute := by
  by_cases hempty : directory.text = []
  · have hroot : directory.isAbsolute = false := by rw [isAbsolute, hempty]; rfl
    rw [child_eq h, if_pos (.inl hempty), hempty, List.nil_append, isAbsolute_of_name h, hroot]
  · obtain ⟨rest, hrest⟩ := text_prefix_child directory h
    rw [isAbsolute, isAbsolute, ← hrest, List.head?_append_of_ne_nil _ hempty]

end Path

namespace Host

/-! ### What is wrong with a path -/

theorem flawOf?_eq_none_iff {path : Path} :
    flawOf? path = none ↔
      Char.ofNat 0 ∉ path.text ∧ path.text ≠ [] ∧ Text.Utf8.size path.text < pathLimit := by
  rw [flawOf?]
  split_ifs with hended hempty hlong <;> simp_all

/-- Nothing is wrong with the beginning of a path unless there is with the path. -/
theorem flawOf?_of_prefix {start : Text} {path : Path} (hne : start ≠ [])
    (hstart : start <+: path.text) (h : flawOf? path = none) : flawOf? ⟨start⟩ = none := by
  obtain ⟨hended, -, hshort⟩ := flawOf?_eq_none_iff.mp h
  obtain ⟨rest, hrest⟩ := hstart
  rw [← hrest, Text.Utf8.size_append] at hshort
  refine flawOf?_eq_none_iff.mpr ⟨fun hmem ↦ hended ?_, hne, by dsimp only; omega⟩
  rw [← hrest]
  exact List.mem_append_left rest hmem

/-! ### Going into a directory -/

/-- A path leads through directories to that of a place. -/
structure Enters (host : Host) (directory : Path) (place : Location) : Prop where
  walk : host.walk (host.originOf directory) directory.way = .ok place
  isDirectoryAt : host.isDirectoryAt place = true

/-- A file of a name can be written in the directory to which a path leads. -/
structure Takes (host : Host) (directory : Path) (name : Text) (place : Location) : Prop where
  flawless : flawOf? (directory.child name) = none
  short : Text.Utf8.size name ≤ nameLimit
  enters : host.Enters directory place
  free : host.isDirectoryAt (place ++ [name]) = false

theorem advance_name_eq_ok_iff {name : Text} (hname : name.IsEntryName)
    {place next : Location} :
    advance place name = .ok next ↔
      Text.Utf8.size name ≤ nameLimit ∧ next = place ++ [name] := by
  rw [advance, if_neg (not_or.mpr ⟨hname.ne_nil, hname.ne_current⟩), if_neg hname.ne_parent]
  split_ifs with hlong
  · simp only [false_iff, not_and]
    omega
  · simp only [Except.ok.injEq, Nat.le_of_not_lt hlong, true_and, eq_comm]

section Entry

variable {host : Host} {directory : Path} {name other : Text} {place target : Location}

/-- A path leads into one directory only. -/
theorem Enters.unique (h : host.Enters directory place) (htarget : host.Enters directory target) :
    place = target :=
  Except.ok.inj (h.walk.symm.trans htarget.walk)

/-- The path of an entry leads to the place of its name in the directory, which must be there. -/
theorem resolve_child_eq_ok_iff (hname : name.IsEntryName) :
    host.resolve (directory.child name) = .ok target ↔
      flawOf? (directory.child name) = none ∧ Text.Utf8.size name ≤ nameLimit ∧
        ∃ place, host.Enters directory place ∧ target = place ++ [name] := by
  have horigin : host.originOf (directory.child name) = host.originOf directory := by
    rw [originOf, originOf, Path.isAbsolute_child hname.separator_notMem]
  rw [resolve_eq]
  rcases hflaw : flawOf? (directory.child name) with _ | error
  · simp only [true_and, Path.splitOn_child hname.separator_notMem, walk_concat_eq_ok_iff, horigin,
      advance_name_eq_ok_iff hname]
    constructor
    · rintro ⟨place, hwalk, hdirectory, hshort, rfl⟩
      exact ⟨hshort, place, ⟨hwalk, hdirectory⟩, rfl⟩
    · rintro ⟨hshort, place, ⟨hwalk, hdirectory⟩, rfl⟩
      exact ⟨place, hwalk, hdirectory, hshort, rfl⟩
  · simp

theorem Takes.resolve_eq (h : host.Takes directory name place) (hname : name.IsEntryName) :
    host.resolve (directory.child name) = .ok (place ++ [name]) :=
  (resolve_child_eq_ok_iff hname).mpr ⟨h.flawless, h.short, place, h.enters, rfl⟩

theorem getLast?_child (directory : Path) (hname : name.IsEntryName) :
    (directory.child name).text.getLast? ≠ some '/' := by
  intro hlast
  have hend : name.getLast? = some '/' := by
    rw [← hlast, Path.child_eq hname.separator_notMem]
    split_ifs
    · exact (List.getLast?_append_of_ne_nil _ hname.ne_nil).symm
    · rw [← List.singleton_append, ← List.append_assoc]
      exact (List.getLast?_append_of_ne_nil _ hname.ne_nil).symm
  exact hname.separator_notMem (List.mem_of_getLast? hend)

/-- A file can be written where no directory is. -/
theorem placeForFile_of_resolve {path : Path} (hlast : path.text.getLast? ≠ some '/')
    (hresolve : host.resolve path = .ok target) :
    host.placeForFile path =
      if host.isDirectoryAt target then .error .isADirectory else .ok target := by
  have hdirectory : host.isDirectoryAt target = (host.at? target).any Tree.isDirectory := rfl
  rw [placeForFile, if_neg hlast, hresolve, hdirectory]
  simp only [bind, Except.bind]
  rcases host.at? target with _ | ⟨content, executable⟩ | entries <;> rfl

/-- A file can be written at the path of an entry exactly if the directory takes one of the name. -/
theorem placeForFile_child_eq_ok_iff (hname : name.IsEntryName) :
    host.placeForFile (directory.child name) = .ok target ↔
      ∃ place, host.Takes directory name place ∧ target = place ++ [name] := by
  have hlast := getLast?_child directory hname
  constructor
  · intro h
    rcases hresolve : host.resolve (directory.child name) with error | found
    · rw [placeForFile, if_neg hlast, hresolve] at h
      contradiction
    · obtain ⟨hflaw, hshort, place, henters, rfl⟩ := (resolve_child_eq_ok_iff hname).mp hresolve
      rw [placeForFile_of_resolve hlast hresolve] at h
      split_ifs at h with hfree
      exact ⟨place, ⟨hflaw, hshort, henters, Bool.eq_false_iff.mpr hfree⟩, (Except.ok.inj h).symm⟩
  · rintro ⟨place, htakes, rfl⟩
    rw [placeForFile_of_resolve hlast (htakes.resolve_eq hname), htakes.free]
    rfl

/-! ### Directories that are there -/

/-- The path of a directory leads to it. -/
theorem Enters.resolve_eq (h : host.Enters directory place) (hflaw : flawOf? directory = none) :
    host.resolve directory = .ok place := by
  obtain ⟨-, hne, -⟩ := flawOf?_eq_none_iff.mp hflaw
  have hwalk := h.walk
  rw [Path.way, if_neg hne] at hwalk
  rw [Host.resolve_eq, hflaw]
  dsimp only
  split_ifs at hwalk with hlast
  · obtain ⟨above, habove⟩ := List.getLast?_eq_some_iff.mp hlast
    rw [habove, List.dropLast_concat] at hwalk
    rw [habove, Text.splitOn_append_cons]
    exact walk_concat_eq_ok_iff.mpr ⟨place, hwalk, h.isDirectoryAt, rfl⟩
  · exact hwalk

/-- Separators at the end of a path lead no further. -/
theorem walk_of_separators {start : Location} {text : Text} (count : Nat)
    (h : host.walk start (splitOn '/' (text ++ List.replicate count '/')) = .ok target) :
    host.walk start (splitOn '/' text) = .ok target := by
  induction count generalizing target with
  | zero => rwa [List.replicate_zero, List.append_nil] at h
  | succ count ih =>
    rw [List.replicate_succ', ← List.append_assoc, Text.splitOn_append_cons] at h
    obtain ⟨between, hwalk, -, hnext⟩ := walk_concat_eq_ok_iff.mp h
    obtain rfl : between = target := Except.ok.inj hnext
    exact ih hwalk

/-- A path leads to the same place without the separators at its end. -/
theorem resolve_trimmed {path : Path} (hflaw : flawOf? path = none)
    (hresolve : host.resolve path = .ok target)
    (hne : Text.trimEndWhile (· == '/') path.text ≠ []) :
    host.resolve ⟨Text.trimEndWhile (· == '/') path.text⟩ = .ok target := by
  let separators := path.text.rtakeWhile (· == '/')
  have htext : Text.trimEndWhile (· == '/') path.text ++ separators = path.text :=
    List.rdropWhile_append_rtakeWhile
  have hseparators : separators = List.replicate separators.length '/' :=
    List.eq_replicate_of_mem fun c hc ↦ beq_iff_eq.mp (List.mem_rtakeWhile_imp (p := (· == '/')) hc)
  have hstart : Text.trimEndWhile (· == '/') path.text <+: path.text := ⟨separators, htext⟩
  have horigin : host.originOf ⟨Text.trimEndWhile (· == '/') path.text⟩ = host.originOf path := by
    have hhead : (Text.trimEndWhile (· == '/') path.text ++ separators).head? =
        (Text.trimEndWhile (· == '/') path.text).head? := List.head?_append_of_ne_nil _ hne
    rw [htext] at hhead
    rw [originOf, originOf, Path.isAbsolute, Path.isAbsolute, hhead]
  rw [Host.resolve_eq, hflaw] at hresolve
  rw [Host.resolve_eq, flawOf?_of_prefix hne hstart hflaw, horigin]
  dsimp only at hresolve ⊢
  rw [← htext, hseparators] at hresolve
  exact walk_of_separators _ hresolve

/-- A directory that is there is not made again. -/
theorem makeDirectory_of_enters (h : host.Enters directory place)
    (hflaw : flawOf? directory = none) :
    host.makeDirectory directory = .error .alreadyExists := by
  have hresolve := h.resolve_eq hflaw
  have htrimmed : host.resolve ⟨if directory.text.all (· == '/') then directory.text
      else Text.trimEndWhile (· == '/') directory.text⟩ = .ok place := by
    split_ifs with hroot
    · exact hresolve
    · refine resolve_trimmed hflaw hresolve fun hnil ↦ hroot ?_
      rw [List.all_eq_true]
      exact List.rdropWhile_eq_nil_iff.mp hnil
  have hthere : (host.at? place).any Tree.isDirectory = true := h.isDirectoryAt
  rw [makeDirectory, htrimmed]
  simp only [bind, Except.bind]
  rcases hat : host.at? place with _ | tree
  · rw [hat] at hthere
    contradiction
  · rfl

/-- A directory that is there is as good as made. -/
theorem makeDirectories_of_enters (h : host.Enters directory place)
    (hflaw : directory.text ≠ [] → flawOf? directory = none) :
    host.makeDirectories directory = .ok host := by
  have hattempt : host.attemptDirectories directory = (.ok (), host) := by
    rw [attemptDirectories, makeDirectoriesUpTo.eq_def]
    dsimp only
    by_cases hempty : directory.text = []
    · rw [if_pos hempty]
    · have hdirectory : host.isDirectory directory = true := by
        rw [isDirectory, lookup?, h.resolve_eq (hflaw hempty)]
        exact h.isDirectoryAt
      have hmake := makeDirectory_of_enters h (hflaw hempty)
      rw [if_neg hempty, hmake]
      dsimp only
      rw [ensureDirectory, hmake]
      exact congrArg (·, host) (if_pos hdirectory)
  rw [makeDirectories, hattempt]
  rfl

/-! ### Writing a file -/

/-- The host with a file of a name in a directory, in place of one that is there. -/
def withFile (host : Host) (place : Location) (name text : Text) : Host :=
  host.put (place ++ [name]) (.file (Text.Utf8.encode text)
    (match host.at? (place ++ [name]) with
      | some (.file _ executable) => executable
      | _ => false))

/-- A file is written where the directory takes it, and nowhere else. -/
theorem writeText_child_eq_ok_iff (hname : name.IsEntryName) {text : Text} {after : Host} :
    host.writeText (directory.child name) text = .ok after ↔
      ∃ place, host.Takes directory name place ∧ after = host.withFile place name text := by
  constructor
  · intro h
    rcases hplace : host.placeForFile (directory.child name) with error | found
    · rw [writeText, hplace] at h
      contradiction
    · obtain ⟨place, htakes, rfl⟩ := (placeForFile_child_eq_ok_iff hname).mp hplace
      rw [writeText, hplace] at h
      exact ⟨place, htakes, (Except.ok.inj h).symm⟩
  · rintro ⟨place, htakes, rfl⟩
    rw [writeText, (placeForFile_child_eq_ok_iff hname).mpr ⟨place, htakes, rfl⟩]
    rfl

theorem Takes.flawOf?_directory (h : host.Takes directory name place) (hname : name.IsEntryName)
    (hne : directory.text ≠ []) : flawOf? directory = none :=
  flawOf?_of_prefix hne (Path.text_prefix_child directory hname.separator_notMem) h.flawless

/-- A directory that takes a file is there. -/
theorem Takes.makeDirectories_eq (h : host.Takes directory name place)
    (hname : name.IsEntryName) : host.makeDirectories directory = .ok host :=
  makeDirectories_of_enters h.enters (h.flawOf?_directory hname)

/-- A file that is written leaves the directory where it is. -/
theorem Takes.enters_withFile (h : host.Takes directory name place) (text : Text) :
    (host.withFile place name text).Enters directory place := by
  have hkeeps : host.Keeps (host.withFile place name text) := keeps_put h.free _
  refine ⟨?_, hkeeps.isDirectoryAt place h.enters.isDirectoryAt⟩
  rw [hkeeps.originOf]
  exact hkeeps.walk h.enters.walk

theorem at?_withFile_self (host : Host) (place : Location) (name text : Text) :
    ∃ executable, (host.withFile place name text).at? (place ++ [name]) =
      some (.file (Text.Utf8.encode text) executable) :=
  ⟨_, Tree.find?_put_self _ host.tree (place ++ [name])⟩

theorem at?_withFile_of_ne (host : Host) (place : Location) (text : Text) (hne : other ≠ name) :
    (host.withFile place name text).at? (place ++ [other]) = host.at? (place ++ [other]) :=
  Tree.find?_put_beside _ host.tree place hne

/-- A file that is written leaves the directory with all that it takes. -/
theorem Takes.withFile (h : host.Takes directory name place)
    (hother : host.Takes directory other place) (text : Text) :
    (host.withFile place name text).Takes directory other place := by
  refine ⟨hother.flawless, hother.short, h.enters_withFile text, ?_⟩
  change ((host.withFile place name text).at? (place ++ [other])).any Tree.isDirectory = false
  by_cases hne : other = name
  · subst hne
    obtain ⟨executable, hfile⟩ := host.at?_withFile_self place other text
    rw [hfile]
    rfl
  · rw [host.at?_withFile_of_ne place text hne]
    exact hother.free

/-! ### Reading files -/

/-- The bytes that are read at a path are those at the place to which it leads. -/
theorem readBytes_of_resolve {path : Path} (h : host.resolve path = .ok target) :
    host.readBytes path =
      match host.at? target with
      | none => .error .notFound
      | some (.directory _) => .error .isADirectory
      | some (.file content _) => .ok content := by
  rw [readBytes, h]
  rfl

/-- A file that has been written says what was written. -/
theorem readText_withFile_self (h : host.Takes directory name place) (hname : name.IsEntryName)
    (text : Text) : (host.withFile place name text).readText (directory.child name) = .ok text := by
  obtain ⟨executable, hfile⟩ := host.at?_withFile_self place name text
  rw [readText, readBytes_of_resolve ((h.withFile h text).resolve_eq hname), hfile]
  simp only [bind, Except.bind, Text.Utf8.decode?_encode]

/-- The other files of a directory say what they said. -/
theorem readText_withFile_of_ne (h : host.Takes directory name place)
    (hother : host.Takes directory other place) (hname : other.IsEntryName) (hne : other ≠ name)
    (text : Text) :
    (host.withFile place name text).readText (directory.child other) =
      host.readText (directory.child other) := by
  rw [readText, readText, readBytes_of_resolve ((h.withFile hother text).resolve_eq hname),
    readBytes_of_resolve (hother.resolve_eq hname), host.at?_withFile_of_ne place text hne]

/-- A directory takes a file again that can be read. -/
theorem takes_of_readText {text : Text} (hname : name.IsEntryName)
    (h : host.readText (directory.child name) = .ok text) :
    ∃ place, host.Takes directory name place := by
  rcases hresolve : host.resolve (directory.child name) with error | target
  · rw [readText, readBytes, hresolve] at h
    contradiction
  · obtain ⟨hflaw, hshort, place, henters, rfl⟩ := (resolve_child_eq_ok_iff hname).mp hresolve
    refine ⟨place, hflaw, hshort, henters, ?_⟩
    change (host.at? (place ++ [name])).any Tree.isDirectory = false
    rw [readText, readBytes_of_resolve hresolve] at h
    rcases hat : host.at? (place ++ [name]) with _ | ⟨content, executable⟩ | entries
    · rfl
    · rfl
    · rw [hat] at h
      contradiction

end Entry

end Host

end Dialogue
