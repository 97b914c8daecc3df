import Dialogue.Proofs.Files.Absolute
import Dialogue.Proofs.Run.Logs

/-!
# What remains of a host

Directories are made and files are written, but no directory goes away, and a file changes only
where one is written (`Host.ChangesOnly`). So a path that led to a place still leads there, and the
files at all other places hold what they held. Making directories changes no file
(`changesOnly_attemptDirectories`), writing a file changes that one (`changesOnly_writeText`), and a
run of a schedule changes nothing but logs (`Run.Schedule.changesOnly_run`).
-/

set_option autoImplicit false
set_option relaxedAutoImplicit false

namespace Dialogue

namespace Host

/-- Another host has all directories that a host has, and the same files except at certain places.
-/
structure ChangesOnly (changed : Location → Prop) (host other : Host) : Prop
    extends host.Keeps other where
  configHome : other.configHome = host.configHome
  fileAt? : ∀ place, ¬ changed place → other.fileAt? place = host.fileAt? place

variable {changed more : Location → Prop} {host other third made after : Host} {path : Path}
  {place : Location} {text : Text}

theorem ChangesOnly.refl (changed : Location → Prop) (host : Host) :
    host.ChangesOnly changed host where
  workingDirectory := rfl
  isDirectoryAt _ h := h
  configHome := rfl
  fileAt? _ _ := rfl

/-- What changes in two steps changes in one of them. -/
theorem ChangesOnly.trans (h : host.ChangesOnly changed other)
    (hnext : other.ChangesOnly changed third) : host.ChangesOnly changed third where
  workingDirectory := hnext.workingDirectory.trans h.workingDirectory
  isDirectoryAt place hthere := hnext.isDirectoryAt place (h.isDirectoryAt place hthere)
  configHome := hnext.configHome.trans h.configHome
  fileAt? place hplace := (hnext.fileAt? place hplace).trans (h.fileAt? place hplace)

theorem ChangesOnly.mono (h : host.ChangesOnly changed other)
    (hmore : ∀ place, changed place → more place) : host.ChangesOnly more other where
  toKeeps := h.toKeeps
  configHome := h.configHome
  fileAt? place hplace := h.fileAt? place fun hchanged ↦ hplace (hmore place hchanged)

/-- A path still leads where it led. -/
theorem Keeps.resolve (h : host.Keeps other) (hresolve : host.resolve path = .ok place) :
    other.resolve path = .ok place := by
  rw [resolve_eq] at hresolve ⊢
  split at hresolve
  · contradiction
  · rw [h.originOf]
    exact h.walk hresolve

/-- The bytes of a file are those that it holds. -/
theorem readBytes_of_fileAt? {content : List UInt8} {executable : Bool}
    (hresolve : host.resolve path = .ok place)
    (hfile : host.fileAt? place = some (content, executable)) :
    host.readBytes path = .ok content := by
  rw [fileAt?, Tree.fileAt?] at hfile
  rw [readBytes_of_resolve hresolve, at?]
  split at hfile
  · next hat =>
    obtain ⟨rfl, -⟩ := Prod.mk.inj (Option.some.inj hfile)
    rw [hat]
  · contradiction

/-- A file that does not change is there and says what it said. -/
theorem ChangesOnly.isFile_and_readText (h : host.ChangesOnly changed other)
    (hisFile : host.isFile path = true)
    (hunchanged : ∀ place, host.resolve path = .ok place → ¬ changed place) :
    other.isFile path = true ∧ other.readText path = host.readText path := by
  obtain ⟨place, hresolve, hfile⟩ := isFile_iff.mp hisFile
  have hagain := h.toKeeps.resolve hresolve
  have hsame := h.fileAt? place (hunchanged place hresolve)
  obtain ⟨⟨content, executable⟩, hcontent⟩ := Option.isSome_iff_exists.mp hfile
  refine ⟨isFile_iff.mpr ⟨place, hagain, hsame ▸ hfile⟩, ?_⟩
  rw [readText, readText, readBytes_of_fileAt? hagain (hsame.trans hcontent),
    readBytes_of_fileAt? hresolve hcontent]

/-! ### Making directories and writing files -/

theorem changesOnly_makeDirectory (h : host.makeDirectory path = .ok made) :
    host.ChangesOnly (fun _ ↦ False) made := by
  have hsame := sameFiles_makeDirectory h
  rw [makeDirectory] at h
  simp only [bind, Except.bind] at h
  split at h
  · contradiction
  next place hresolve =>
  split at h
  · contradiction
  next hnone =>
  obtain rfl := Except.ok.inj h
  have hfree : host.isDirectoryAt place = false := by
    change (host.at? place).any Tree.isDirectory = false
    rw [hnone]
    rfl
  exact ⟨keeps_put hfree _, rfl, fun other _ ↦ hsame other⟩

/-- Directories that are made change no file, even if some cannot be made. -/
theorem changesOnly_attemptDirectories (changed : Location → Prop) (host : Host) (path : Path) :
    host.ChangesOnly changed (host.attemptDirectories path).2 :=
  (related_attemptDirectories (ChangesOnly.refl _) ChangesOnly.trans changesOnly_makeDirectory host
    path).mono fun _ hfalse ↦ hfalse.elim

theorem changesOnly_makeDirectories (changed : Location → Prop)
    (h : host.makeDirectories path = .ok made) : host.ChangesOnly changed made :=
  eq_of_makeDirectories h ▸ changesOnly_attemptDirectories changed host path

/-- A file that is written is the only one that changes. -/
theorem changesOnly_writeText (h : host.writeText path text = .ok after)
    (hresolve : after.resolve path = .ok place) : host.ChangesOnly (· = place) after := by
  obtain ⟨target, executable, htarget, -, hother⟩ := exists_of_writeText h
  obtain rfl : target = place := Except.ok.inj (htarget.symm.trans hresolve)
  rcases hplace : host.placeForFile path with error | found
  · rw [writeText, hplace] at h
    contradiction
  rw [writeText, hplace] at h
  obtain rfl := Except.ok.inj h
  exact ⟨keeps_put (resolve_of_placeForFile hplace).2 _, rfl, hother⟩

end Host

/-! ### Logs -/

namespace Run

/-- The place of a log: it is called as logs are. -/
def IsLog (place : Location) : Prop :=
  ∃ path, place.getLast? = some (logName path)

/-- What ends with another letter is no log. -/
theorem not_isLog_concat {name : Text} (hname : name.getLast? ≠ some 'g') (place : Location) :
    ¬ IsLog (place ++ [name]) := by
  rintro ⟨path, hlast⟩
  rw [List.getLast?_concat] at hlast
  exact hname (Option.some.inj hlast ▸ getLast?_logName path)

/-- A log that is stored is the only file that changes. -/
theorem changesOnly_store {host stored : Host} {directory path : Path} {text : Text}
    (h : store host directory (logPath directory path) text = .ok stored) :
    host.ChangesOnly IsLog stored := by
  obtain ⟨made, place, hmade, htakes, rfl⟩ := store_eq_ok_iff.mp h
  have hname := isEntryName_logName path
  have hwrite : made.writeText (directory.child (logName path)) text =
      .ok (made.withFile place (logName path) text) :=
    (Host.writeText_child_eq_ok_iff hname).mpr ⟨place, htakes, rfl⟩
  have hresolve := (htakes.withFile htakes text).resolve_eq hname
  refine (Host.changesOnly_makeDirectories IsLog hmade).trans
    ((Host.changesOnly_writeText hwrite hresolve).mono ?_)
  rintro _ rfl
  exact ⟨path, List.getLast?_concat⟩

theorem changesOnly_logged (host : Host) (program : Program) (path : Path) (script : Script)
    (options : Options) : host.ChangesOnly IsLog (logged host program path script options).2 := by
  rw [logged, withLog]
  rcases options.logDirectory with _ | directory
  · exact .refl _ host
  dsimp only
  split
  · next stored hstored => exact changesOnly_store hstored
  · exact .refl _ host

namespace Schedule

theorem changesOnly_runJobs (program : Program) (options : Options) (index total : Nat)
    (host : Host) (jobs : List Job) :
    host.ChangesOnly IsLog (runJobs program options index total host jobs).2.2 := by
  induction jobs generalizing index host with
  | nil => exact .refl _ host
  | cons job jobs ih =>
    exact (changesOnly_logged host program job.path job.script options).trans (ih (index + 1) _)

/-- A run of a schedule changes logs and nothing else. -/
theorem changesOnly_run (schedule : Schedule) (host : Host) :
    host.ChangesOnly IsLog (schedule.run host).2.2 :=
  changesOnly_runJobs schedule.program schedule.options 1 schedule.queue.length host schedule.queue

end Schedule

end Run

end Dialogue
