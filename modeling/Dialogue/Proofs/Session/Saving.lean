import Dialogue.Proofs.Config.Finding
import Dialogue.Proofs.Config.Saving

/-!
# A run after the configuration was saved

A configuration is saved in the file in which it is kept, or else in the working directory. What a
later run makes of it depends on where it came from (`Session.Source`). If it was given, or found by
its name on the way up, it is found in the same place again and is at home there; and if there was
none, the one in the working directory is found and at home where scripts were looked for. So the
later run is for the same program and looks for scripts in the same directory (`Session.Repeats`).

The user's own configuration is another matter. It is saved in the working directory and is at home
there from then on, so scripts are looked for below the working directory unless their directory was
given or is absolute. If a file of the usual name lies beside it, that one is written, and no later
run reads it (`Session.conduct_after_saving`).

In between logs are written, which leave the configuration alone unless it is called like one of
them (`Session.changesOnly_conduct`).
-/

set_option autoImplicit false
set_option relaxedAutoImplicit false

namespace Dialogue

open Yaml (Value)

namespace Config

variable {config : Config} {host saved later : Host} {path target : Path} {place : Location}
  {changed : Location → Prop}

/-- A configuration that is saved changes its file. -/
theorem changesOnly_save (h : config.save host path = .ok saved)
    (hresolve : saved.resolve path = .ok place) : host.ChangesOnly (· = place) saved := by
  obtain ⟨made, hmade, hwrite⟩ := exists_writeText_of_save h
  refine Host.ChangesOnly.trans ?_ (Host.changesOnly_writeText hwrite hresolve)
  rcases hmade with rfl | ⟨parent, hmade⟩
  · exact .refl _ made
  · exact Host.changesOnly_makeDirectories _ hmade

/-- A configuration that is saved is loaded by any path to its file, as long as that is left alone.
-/
theorem load_of_changesOnly (h : config.save host target = .ok saved)
    (hwritten : Value.parse config.render = .ok config.toValue)
    (htarget : saved.resolve target = .ok place) (hlater : saved.ChangesOnly changed later)
    (hplace : ¬ changed place) (hpath : later.resolve path = .ok place) :
    load later path = .ok ⟨config, path.parentOrCurrent⟩ := by
  obtain ⟨target', executable, hresolve, hfile, -⟩ := exists_of_save h
  obtain rfl : target' = place := Except.ok.inj (hresolve.symm.trans htarget)
  have htext := readText_of_fileAt? hpath ((hlater.fileAt? _ hplace).trans hfile)
  exact (load_eq_ok_iff htext hwritten).mpr ⟨ofValue_toValue config, rfl⟩

end Config

namespace Session

variable {host saved later : Host} {selection : Selection} {choices : Choices} {origin : Origin}
  {suite : Suite} {given : Option Path} {program : Option Text}

/-! ### What a run leaves as it is -/

theorem changesOnly_runSuite (config : Config) (suite : Suite) (choices : Choices)
    (session : Session) :
    session.host.ChangesOnly Run.IsLog
      ((runSuite config suite choices).run.run session).2.host := by
  have hmade (path : Path) := Host.changesOnly_attemptDirectories Run.IsLog session.host path
  rw [run_runSuite, run_setUp]
  rcases programOf session.host config with error | ⟨name, program⟩
  · exact .refl _ _
  dsimp only
  rcases (session.host.attemptDirectories (config.logDirectoryFor suite.directory)).1 with
    error | done
  · exact hmade _
  · exact (hmade _).trans (Run.Schedule.changesOnly_run _ _)

theorem host_conduct (host : Host) (colored : Bool) (request : Request) :
    (conduct host colored request).host =
      ((perform request).run.run (start host colored)).2.host := by
  rw [conduct]
  rcases (perform request).run.run (start host colored) with ⟨error | status, session⟩ <;> rfl

/-- After the configuration was saved, a run changes logs and nothing else. -/
theorem changesOnly_conduct (colored : Bool)
    (h : Saves host selection choices origin suite saved) :
    saved.ChangesOnly Run.IsLog (conduct host colored (.run selection choices)).host := by
  rw [host_conduct, perform, run_run, start, h.chosen_eq]
  dsimp only
  rw [h.suiteOf_eq]
  dsimp only
  rw [if_pos h.asked, run_save]
  dsimp only
  rw [h.save_eq]
  exact changesOnly_runSuite origin.config suite choices ⟨saved, _, _, _⟩

/-! ### Where a configuration comes from -/

/-- The configuration that is found without one that is given. -/
def foundFile? (host : Host) : Option Path :=
  (Config.fileFrom? host host.workingPath).or ((Config.userFile? host).filter host.isFile)

theorem originOf_some (host : Host) (path : Path) :
    originOf host (some path) = (Config.load host path).map fun located ↦
      ⟨located.config, some located.home, some path⟩ := by
  rw [originOf]
  rcases Config.load host path with error | located <;> rfl

theorem originOf_found {path : Path} (h : foundFile? host = some path) :
    originOf host none = (Config.load host path).map fun located ↦
      ⟨located.config, some located.home,
        if host.isFile (located.home.child Config.fileName) then
          some (located.home.child Config.fileName) else none⟩ := by
  rw [foundFile?] at h
  rw [originOf, Config.discover, h]
  dsimp only
  rcases Config.load host path with error | located <;> rfl

theorem originOf_notFound (h : foundFile? host = none) :
    originOf host none = .ok ⟨.standard, none, none⟩ := by
  rw [foundFile?] at h
  rw [originOf, Config.discover, h]
  rfl

/-- Where a configuration comes from, and in which file it is kept. -/
inductive Source (host : Host) (given : Option Path) (origin : Origin) : Prop
  /-- It was given. -/
  | given (path : Path) (given_eq : given = some path)
      (home_eq : origin.home = some path.parentOrCurrent) (file_eq : origin.file = some path)
  /-- It was found by its name on the way up. -/
  | found (directory : Location) (given_eq : given = none) (proper : Proper directory)
      (found_eq : Config.fileFrom? host host.workingPath =
        some ((Host.pathOf directory).child Config.fileName))
      (isFile : host.isFile ((Host.pathOf directory).child Config.fileName) = true)
      (home_eq : origin.home = some (Host.pathOf directory))
      (file_eq : origin.file = some ((Host.pathOf directory).child Config.fileName))
  /-- It is the user's own. It is kept beside that if there is a file of the usual name. -/
  | users (path : Path) (given_eq : given = none)
      (found_eq : Config.fileFrom? host host.workingPath = none)
      (user_eq : Config.userFile? host = some path) (isFile : host.isFile path = true)
      (home_eq : origin.home = some path.parentOrCurrent)
      (file_eq : origin.file = if host.isFile (path.parentOrCurrent.child Config.fileName) then
        some (path.parentOrCurrent.child Config.fileName) else none)
  /-- There is none. -/
  | nowhere (given_eq : given = none) (found_eq : foundFile? host = none)
      (sources_eq : origin.config.testSources = none) (home_eq : origin.home = none)
      (file_eq : origin.file = none)

theorem home_of_load {path : Path} {located : Config.Located}
    (h : Config.load host path = .ok located) : located.home = path.parentOrCurrent := by
  rw [Config.load] at h
  split at h
  · contradiction
  split at h
  · contradiction
  split at h
  · contradiction
  · rw [← Except.ok.inj h]

theorem source_of_originOf (hplaced : host.Placed) (h : originOf host given = .ok origin) :
    Source host given origin := by
  rcases given with _ | path
  · rcases hfound : foundFile? host with _ | path
    · rw [originOf_notFound hfound] at h
      obtain rfl := Except.ok.inj h
      exact .nowhere rfl hfound rfl rfl rfl
    rw [originOf_found hfound] at h
    rcases hload : Config.load host path with error | located
    · rw [hload] at h
      contradiction
    rw [hload] at h
    obtain rfl := Except.ok.inj h
    have hhome := home_of_load hload
    rcases Option.or_eq_some_iff.mp hfound with hfile | ⟨hnone, huser⟩
    · have habove := hfile
      rw [hplaced.fileFrom?_eq] at habove
      obtain ⟨directory, hproper, rfl, hisFile⟩ := Config.exists_of_fileAbove?
        (by rw [List.reverse_reverse]; exact hplaced.proper) habove
      rw [Host.parentOrCurrent_child_pathOf (fun name hmem ↦ (hproper name hmem).1)
        Config.isEntryName_fileName] at hhome
      refine .found directory rfl hproper hfile hisFile (congrArg some hhome) ?_
      dsimp only
      rw [hhome, if_pos hisFile]
    · obtain ⟨huser, hisFile⟩ := Option.filter_eq_some_iff.mp huser
      refine .users path rfl hnone huser hisFile (congrArg some hhome) ?_
      dsimp only
      rw [hhome]
  · rw [originOf_some] at h
    rcases hload : Config.load host path with error | located
    · rw [hload] at h
      contradiction
    rw [hload] at h
    obtain rfl := Except.ok.inj h
    exact .given path rfl (congrArg some (home_of_load hload)) rfl

/-- What is chosen otherwise makes no difference to where a configuration comes from. -/
theorem source_of_chosen (hplaced : host.Placed)
    (h : chosen host selection program = .ok origin) : Source host selection.config origin := by
  rw [chosen] at h
  rcases horigin : originOf host selection.config with error | found
  · rw [horigin] at h
    contradiction
  rw [horigin] at h
  obtain rfl := Except.ok.inj h
  cases source_of_originOf hplaced horigin with
  | given path hgiven hhome hfile => exact .given path hgiven hhome hfile
  | found directory hgiven hproper hfound hisFile hhome hfile =>
    exact .found directory hgiven hproper hfound hisFile hhome hfile
  | users path hgiven hfound huser hisFile hhome hfile =>
    exact .users path hgiven hfound huser hisFile hhome hfile
  | nowhere hgiven hfound hsources hhome hfile =>
    exact .nowhere hgiven hfound hsources hhome hfile

theorem exists_originOf_of_chosen (h : chosen host selection program = .ok origin) :
    ∃ before, originOf host selection.config = .ok before := by
  rw [chosen] at h
  rcases horigin : originOf host selection.config with error | before
  · rw [horigin] at h
    contradiction
  · exact ⟨before, rfl⟩

/-! ### The run afterwards -/

/-- A later run has the configuration that was saved, at home in some directory. -/
def Recovers (later : Host) (given : Option Path) (config : Config) (home : Path) : Prop :=
  ∃ file, originOf later given = .ok ⟨config, some home, file⟩

section After

variable {place : Location} (hsaves : Saves host selection choices origin suite saved)
  (hwritten : Value.parse (savedConfig host origin.config selection.path).render =
    .ok (savedConfig host origin.config selection.path).toValue)
  (hlater : saved.ChangesOnly Run.IsLog later)
  (htarget : saved.resolve origin.target = .ok place) (hplace : ¬ Run.IsLog place)

include hsaves hwritten hlater htarget hplace

/-- What is saved in a file that is given is found there. -/
theorem recovers_given {path : Path} (hfile : origin.file = some path) :
    Recovers later (some path) (savedConfig host origin.config selection.path)
      path.parentOrCurrent := by
  rw [Origin.target, hfile, Option.getD_some] at htarget
  have hsave := hsaves.save_eq
  rw [Origin.target, hfile, Option.getD_some] at hsave
  have hload := Config.load_of_changesOnly hsave hwritten htarget hlater hplace
    (hlater.toKeeps.resolve htarget)
  refine ⟨some path, ?_⟩
  rw [originOf_some, hload]
  rfl

/-- What is saved in a file that is found by its name on the way up is found there. -/
theorem recovers_found {path : Path} (hfound : foundFile? later = some path)
    (hpath : later.resolve path = .ok place) :
    Recovers later none (savedConfig host origin.config selection.path) path.parentOrCurrent := by
  have hload := Config.load_of_changesOnly hsaves.save_eq hwritten htarget hlater hplace hpath
  have horigin := originOf_found hfound
  rw [hload] at horigin
  exact ⟨_, horigin⟩

end After

/-- No log is called like a configuration. -/
theorem not_isLog_fileName (place : Location) : ¬ Run.IsLog (place ++ [Config.fileName]) :=
  Run.not_isLog_concat (by decide +kernel) place

/-- The files that change while the configuration is saved and the scripts are run are that of the
configuration and the logs. -/
theorem changesOnly_later {place : Location}
    (hsaves : Saves host selection choices origin suite saved)
    (htarget : saved.resolve origin.target = .ok place)
    (hlater : saved.ChangesOnly Run.IsLog later) :
    host.ChangesOnly (fun other ↦ other = place ∨ Run.IsLog other) later :=
  ((Config.changesOnly_save hsaves.save_eq htarget).mono fun _ ↦ .inl).trans
    (hlater.mono fun _ ↦ .inr)

/-- If the file of the configuration was there before, the same file is found by its name. -/
theorem fileFrom?_later {place : Location} (hplaced : host.Placed)
    (hsaves : Saves host selection choices origin suite saved)
    (hisFile : host.isFile origin.target = true)
    (htarget : saved.resolve origin.target = .ok place)
    (hlater : saved.ChangesOnly Run.IsLog later) (hplace : ¬ Run.IsLog place) :
    Config.fileFrom? later later.workingPath = Config.fileFrom? host host.workingPath := by
  have hchanges := changesOnly_later hsaves htarget hlater
  refine hplaced.fileFrom?_congr hchanges fun directory ↦ ?_
  by_cases heq : directory ++ [Config.fileName] = place
  · obtain ⟨before, hresolve, hbefore⟩ := Host.isFile_iff.mp hisFile
    have hkept := (Config.changesOnly_save hsaves.save_eq htarget).toKeeps.resolve hresolve
    obtain rfl : before = place := Except.ok.inj (hkept.symm.trans htarget)
    obtain ⟨after, executable, hafter, hfile, -⟩ := Config.exists_of_save hsaves.save_eq
    obtain rfl : after = before := Except.ok.inj (hafter.symm.trans htarget)
    rw [heq, hlater.fileAt? _ hplace, hfile, hbefore]
    rfl
  · rw [hchanges.fileAt? _ (not_or.mpr ⟨heq, not_isLog_fileName directory⟩)]

/-- A path in the working directory leads there. -/
theorem resolve_fileName {place : Location} (h : host.resolve ⟨Config.fileName⟩ = .ok place) :
    place = host.workingDirectory ++ [Config.fileName] := by
  have hchild : Path.child ⟨[]⟩ Config.fileName = ⟨Config.fileName⟩ := by decide +kernel
  rw [← hchild] at h
  obtain ⟨-, -, directory, henters, rfl⟩ :=
    (Host.resolve_child_eq_ok_iff Config.isEntryName_fileName).mp h
  obtain rfl : host.workingDirectory = directory := Except.ok.inj henters.walk
  rfl

section Later

variable (hplaced : host.Placed) (hsaves : Saves host selection choices origin suite saved)
  (hwritten : Value.parse (savedConfig host origin.config selection.path).render =
    .ok (savedConfig host origin.config selection.path).toValue)
  (hlater : saved.ChangesOnly Run.IsLog later)

include hplaced hsaves hwritten hlater

/-- A configuration that was found by its name is found there again. -/
theorem recovers_of_found {directory : Location} (hproper : Proper directory)
    (hfound : Config.fileFrom? host host.workingPath =
      some ((Host.pathOf directory).child Config.fileName))
    (hisFile : host.isFile ((Host.pathOf directory).child Config.fileName) = true)
    (hfile : origin.file = some ((Host.pathOf directory).child Config.fileName)) :
    Recovers later none (savedConfig host origin.config selection.path)
      (Host.pathOf directory) := by
  obtain ⟨place, -, htarget, -⟩ := Config.exists_of_save hsaves.save_eq
  have hpath : origin.target = (Host.pathOf directory).child Config.fileName := by
    rw [Origin.target, hfile, Option.getD_some]
  have hplace : ¬ Run.IsLog place := by
    have hresolve := htarget
    rw [hpath] at hresolve
    obtain ⟨-, -, above, -, rfl⟩ :=
      (Host.resolve_child_eq_ok_iff Config.isEntryName_fileName).mp hresolve
    exact not_isLog_fileName above
  have hagain : foundFile? later = some ((Host.pathOf directory).child Config.fileName) := by
    rw [foundFile?, fileFrom?_later hplaced hsaves (hpath ▸ hisFile) htarget hlater hplace, hfound,
      Option.some_or]
  rw [← Host.parentOrCurrent_child_pathOf (fun name hmem ↦ (hproper name hmem).1)
    Config.isEntryName_fileName]
  exact recovers_found hsaves hwritten hlater htarget hplace hagain
    (hlater.toKeeps.resolve (hpath ▸ htarget))

/-- A configuration that was kept nowhere is found in the working directory. -/
theorem recovers_of_unkept (hfile : origin.file = none) :
    Recovers later none (savedConfig host origin.config selection.path) host.workingPath := by
  obtain ⟨place, executable, htarget, hsaved, -⟩ := Config.exists_of_save hsaves.save_eq
  have hchanges := changesOnly_later hsaves htarget hlater
  have hhere : place = later.workingDirectory ++ [Config.fileName] := by
    have hresolve := hlater.toKeeps.resolve htarget
    rw [Origin.target, hfile, Option.getD_none] at hresolve
    exact resolve_fileName hresolve
  have hplace : ¬ Run.IsLog place := hhere ▸ not_isLog_fileName _
  have hagain := hplaced.of_changesOnly hchanges
  have hthere : (later.fileAt? (later.workingDirectory ++ [Config.fileName])).isSome = true := by
    rw [← hhere, hlater.fileAt? _ hplace, hsaved]
    rfl
  have hfound : foundFile? later = some (later.workingPath.child Config.fileName) := by
    rw [foundFile?, hagain.fileFrom?_of_file hthere, Option.some_or]
  have hworking : later.workingPath = host.workingPath := by
    rw [Host.workingPath, hchanges.workingDirectory, Host.workingPath]
  rw [← hworking, ← hagain.parentOrCurrent_child]
  exact recovers_found hsaves hwritten hlater htarget hplace hfound (hhere ▸ hagain.resolve_child)

omit hwritten in
/-- The user's own configuration is found again as it was if another file was kept beside it. -/
theorem originOf_of_beside {path : Path}
    (hfound : Config.fileFrom? host host.workingPath = none)
    (huser : Config.userFile? host = some path) (hisFile : host.isFile path = true)
    (hbeside : host.isFile (path.parentOrCurrent.child Config.fileName) = true)
    (hfile : origin.file = some (path.parentOrCurrent.child Config.fileName)) :
    originOf later none = originOf host none := by
  obtain ⟨place, executable, htarget, hsaved, -⟩ := Config.exists_of_save hsaves.save_eq
  have hchanges := changesOnly_later hsaves htarget hlater
  have hpath : origin.target = path.parentOrCurrent.child Config.fileName := by
    rw [Origin.target, hfile, Option.getD_some]
  obtain ⟨above, rfl⟩ : ∃ above, place = above ++ [Config.fileName] := by
    have hresolve := htarget
    rw [hpath] at hresolve
    obtain ⟨-, -, above, -, habove⟩ :=
      (Host.resolve_child_eq_ok_iff Config.isEntryName_fileName).mp hresolve
    exact ⟨above, habove⟩
  have hplace := not_isLog_fileName above
  -- The user's file has another name than what is saved, and it is no log either.
  have hunchanged : ∀ other, host.resolve path = .ok other →
      ¬ (other = above ++ [Config.fileName] ∨ Run.IsLog other) := by
    intro other hresolve
    obtain ⟨home, -, rfl⟩ := Option.map_eq_some_iff.mp huser
    obtain ⟨-, -, directory, -, rfl⟩ :=
      (Host.resolve_child_eq_ok_iff (by decide +kernel)).mp hresolve
    refine not_or.mpr ⟨fun heq ↦ ?_, Run.not_isLog_concat (by decide +kernel) directory⟩
    exact absurd (List.append_inj_right' heq rfl) (by decide +kernel)
  obtain ⟨hisFile', hread⟩ := hchanges.isFile_and_readText hisFile hunchanged
  have huser' : Config.userFile? later = some path := by
    rw [Config.userFile?, hchanges.configHome]
    exact huser
  have hbefore : foundFile? host = some path := by
    rw [foundFile?, hfound, huser, Option.none_or, Option.filter_some, if_pos hisFile]
  have hafter : foundFile? later = some path := by
    rw [foundFile?, fileFrom?_later hplaced hsaves (hpath ▸ hbeside) htarget hlater hplace, hfound,
      huser', Option.none_or, Option.filter_some, if_pos hisFile']
  have hload : Config.load later path = Config.load host path := by
    rw [Config.load, Config.load, hread]
  have hbeside' : later.isFile (path.parentOrCurrent.child Config.fileName) = true :=
    Host.isFile_iff.mpr ⟨_, hlater.toKeeps.resolve (hpath ▸ htarget), by
      rw [hlater.fileAt? _ hplace, hsaved]
      rfl⟩
  rw [originOf_found hafter, originOf_found hbefore, hload]
  rcases hlocated : Config.load host path with error | located
  · rfl
  · simp only [Except.map, home_of_load hlocated, hbeside, hbeside']

end Later

/-! ### Scripts and programs -/

theorem directory_of_suiteOf_none (h : suiteOf host origin none = .ok suite) :
    suite.directory = origin.config.searchDirectory host.workingPath origin.home := by
  rw [suiteOf] at h
  simp only [bind, Except.bind] at h
  split at h
  · contradiction
  · rw [← Except.ok.inj h]

/-- A directory has an absolute path. -/
theorem exists_canonical? {path : Path} (h : host.isDirectory path = true) :
    ∃ place, host.canonical? path = some (Host.pathOf place) := by
  rw [Host.isDirectory, Host.lookup?] at h
  rw [Host.canonical?]
  rcases hresolve : host.resolve path with error | place
  · rw [hresolve] at h
    contradiction
  rw [hresolve] at h
  dsimp only at h ⊢
  rcases hthere : host.at? place with _ | tree
  · rw [hthere] at h
    contradiction
  · exact ⟨place, rfl⟩

theorem program_savedConfig (host : Host) (config : Config) (given : Option Path) :
    (savedConfig host config given).program = config.program := by
  rw [savedConfig]
  split <;> rfl

theorem searchDirectory_of_isAbsolute {config : Config} {sources : Path} (base : Path)
    (home : Option Path) (hsources : config.testSources = some sources)
    (habsolute : sources.isAbsolute = true) : config.searchDirectory base home = sources := by
  rw [Config.searchDirectory, hsources]
  exact if_pos habsolute

/-- Where a configuration is at home makes no difference unless it says a relative directory. -/
theorem searchDirectory_congr {config : Config}
    (h : ∀ sources, config.testSources = some sources → sources.isAbsolute = true) (base : Path)
    (home other : Option Path) :
    config.searchDirectory base home = config.searchDirectory base other := by
  rcases hsources : config.testSources with _ | sources
  · rw [Config.searchDirectory, Config.searchDirectory, hsources]
  · rw [searchDirectory_of_isAbsolute _ _ hsources (h sources hsources),
      searchDirectory_of_isAbsolute _ _ hsources (h sources hsources)]

/-- With the configuration that is saved scripts are looked for where they were, if the directory
was given or means the same in the configuration's new home. -/
theorem searchDirectory_savedConfig {home : Path}
    (hdirectory : ∀ path, selection.path = some path → host.isDirectory path = true)
    (hsuite : suiteOf host origin selection.path = .ok suite)
    (hhome : selection.path = none →
      origin.config.searchDirectory host.workingPath (some home) =
        origin.config.searchDirectory host.workingPath origin.home) :
    (savedConfig host origin.config selection.path).searchDirectory host.workingPath (some home) =
      (selection.path.bind host.canonical?).getD suite.directory := by
  rcases hpath : selection.path with _ | path
  · rw [hpath] at hsuite
    rw [directory_of_suiteOf_none hsuite]
    exact hhome hpath
  · obtain ⟨place, hcanonical⟩ := exists_canonical? (hdirectory path hpath)
    have hsources : (savedConfig host origin.config (some path)).testSources =
        some (Host.pathOf place) := by
      rw [savedConfig, Option.filter_some, if_pos (hdirectory path hpath)]
      change some ((host.canonical? path).getD path) = _
      rw [hcanonical, Option.getD_some]
    rw [searchDirectory_of_isAbsolute _ _ hsources (Host.isAbsolute_pathOf place),
      Option.bind_some, hcanonical, Option.getD_some]

/-- The configuration is the user's own: none was given, none was found on the way up, and there is
one all the same. -/
def UsersOwn (host : Host) (selection : Selection) (origin : Origin) : Prop :=
  selection.config = none ∧ Config.fileFrom? host host.workingPath = none ∧
    origin.home.isSome = true

/-- A later run is for the same program, and looks for scripts in the same directory: that of the
suite, by its absolute path if it was given. -/
structure Repeats (host : Host) (selection : Selection) (origin : Origin) (suite : Suite)
    (later : Host) (again : Origin) : Prop where
  program_eq : again.config.program = origin.config.program
  directory_eq : again.config.searchDirectory later.workingPath again.home =
    (selection.path.bind host.canonical?).getD suite.directory

theorem exists_chosen_of_recovers {home : Path} (pattern : Option Text)
    (hlater : later.workingPath = host.workingPath)
    (h : Recovers later given (savedConfig host origin.config selection.path) home) :
    ∃ again, chosen later ⟨none, given, pattern⟩ none = .ok again ∧
      again.config.program = origin.config.program ∧
        again.config.searchDirectory later.workingPath again.home =
          (savedConfig host origin.config selection.path).searchDirectory host.workingPath
            (some home) := by
  obtain ⟨file, horigin⟩ := h
  refine ⟨_, congrArg (Except.map _) horigin, program_savedConfig host origin.config _, ?_⟩
  rw [hlater]
  rfl

theorem workingPath_later (hsaves : Saves host selection choices origin suite saved)
    (hlater : saved.ChangesOnly Run.IsLog later) : later.workingPath = host.workingPath := by
  obtain ⟨place, -, htarget, -⟩ := Config.exists_of_save hsaves.save_eq
  rw [Host.workingPath, (changesOnly_later hsaves htarget hlater).workingDirectory,
    Host.workingPath]

section Again

variable (hplaced : host.Placed) (hsaves : Saves host selection choices origin suite saved)
  (hdirectory : ∀ path, selection.path = some path → host.isDirectory path = true)
  (hwritten : Value.parse (savedConfig host origin.config selection.path).render =
    .ok (savedConfig host origin.config selection.path).toValue)
  (hlater : saved.ChangesOnly Run.IsLog later) (pattern : Option Text)

include hsaves hdirectory hlater in
theorem exists_repeats {home : Path}
    (h : Recovers later selection.config (savedConfig host origin.config selection.path) home)
    (hhome : selection.path = none →
      origin.config.searchDirectory host.workingPath (some home) =
        origin.config.searchDirectory host.workingPath origin.home) :
    ∃ again, chosen later ⟨none, selection.config, pattern⟩ none = .ok again ∧
      Repeats host selection origin suite later again := by
  obtain ⟨again, hagain, hprogram, hsearched⟩ :=
    exists_chosen_of_recovers pattern (workingPath_later hsaves hlater) h
  exact ⟨again, hagain, hprogram, hsearched.trans
    (searchDirectory_savedConfig hdirectory hsaves.suiteOf_eq hhome)⟩

include hplaced hsaves hdirectory hwritten hlater in
/-- A configuration that is not the user's own is at home where it was, or says no directory that
would depend on it. -/
theorem exists_repeats_of_not_usersOwn
    (hgiven : ∀ path place, selection.config = some path → saved.resolve path = .ok place →
      ¬ Run.IsLog place) (hown : ¬ UsersOwn host selection origin) :
    ∃ again, chosen later ⟨none, selection.config, pattern⟩ none = .ok again ∧
      Repeats host selection origin suite later again := by
  cases source_of_chosen hplaced hsaves.chosen_eq with
  | given path hconfig hhome hfile =>
    obtain ⟨place, -, htarget, -⟩ := Config.exists_of_save hsaves.save_eq
    have hpath : origin.target = path := by rw [Origin.target, hfile, Option.getD_some]
    have hrecovers := recovers_given hsaves hwritten hlater htarget
      (hgiven path place hconfig (hpath ▸ htarget)) hfile
    exact exists_repeats hsaves hdirectory hlater pattern (hconfig ▸ hrecovers)
      fun _ ↦ by rw [hhome]
  | found directory hconfig hproper hfound hisFile hhome hfile =>
    have hrecovers := recovers_of_found hplaced hsaves hwritten hlater hproper hfound hisFile hfile
    exact exists_repeats hsaves hdirectory hlater pattern (hconfig ▸ hrecovers)
      fun _ ↦ by rw [hhome]
  | users path hconfig hfound huser hisFile hhome hfile =>
    exact absurd ⟨hconfig, hfound, by rw [hhome]; rfl⟩ hown
  | nowhere hconfig hfound hsources hhome hfile =>
    have hrecovers := recovers_of_unkept hplaced hsaves hwritten hlater hfile
    have hsays : ∀ sources, origin.config.testSources = some sources →
        sources.isAbsolute = true := by
      intro sources h
      exact absurd (h.symm.trans hsources) (Option.some_ne_none _)
    exact exists_repeats hsaves hdirectory hlater pattern (hconfig ▸ hrecovers)
      fun _ ↦ searchDirectory_congr hsays _ _ _

include hplaced hsaves hdirectory hwritten hlater in
/-- The user's own configuration moves to the working directory unless something is kept beside it.
-/
theorem exists_chosen_of_usersOwn (hown : UsersOwn host selection origin)
    (hfile : origin.file = none) :
    ∃ again, chosen later ⟨none, selection.config, pattern⟩ none = .ok again ∧
      again.config.program = origin.config.program ∧
        again.config.searchDirectory later.workingPath again.home =
          (savedConfig host origin.config selection.path).searchDirectory host.workingPath
            (some host.workingPath) ∧
        ((selection.path = none →
            ∀ sources, origin.config.testSources = some sources → sources.isAbsolute = true) →
          Repeats host selection origin suite later again) := by
  have hrecovers := recovers_of_unkept hplaced hsaves hwritten hlater hfile
  rw [hown.1]
  obtain ⟨again, hagain, hprogram, hsearched⟩ :=
    exists_chosen_of_recovers pattern (workingPath_later hsaves hlater) hrecovers
  refine ⟨again, hagain, hprogram, hsearched, fun habsolute ↦
    ⟨hprogram, hsearched.trans ?_⟩⟩
  exact searchDirectory_savedConfig hdirectory hsaves.suiteOf_eq fun hnone ↦
    searchDirectory_congr (habsolute hnone) _ _ _

include hplaced hsaves hlater in
/-- What is kept beside the user's own configuration makes no difference to what is chosen. -/
theorem chosen_of_usersOwn_beside (hown : UsersOwn host selection origin)
    (hfile : origin.file ≠ none) :
    ∃ again, chosen later ⟨none, selection.config, pattern⟩ none = .ok again ∧
      chosen host ⟨none, none, pattern⟩ none = .ok again := by
  obtain ⟨hconfig, hnone, hsome⟩ := hown
  cases source_of_chosen hplaced hsaves.chosen_eq with
  | given path hgiven => exact absurd (hgiven.symm.trans hconfig) (Option.some_ne_none _)
  | found directory _ _ hfound => exact absurd (hfound.symm.trans hnone) (Option.some_ne_none _)
  | users path _ hfound huser hisFile _ hkept =>
    by_cases hbeside : host.isFile (path.parentOrCurrent.child Config.fileName) = true
    · rw [if_pos hbeside] at hkept
      have hsame := originOf_of_beside hplaced hsaves hlater hfound huser hisFile hbeside hkept
      obtain ⟨before, hbefore⟩ := exists_originOf_of_chosen hsaves.chosen_eq
      rw [hconfig] at hbefore ⊢
      exact ⟨_, congrArg (Except.map _) (hsame.trans hbefore), congrArg (Except.map _) hbefore⟩
    · rw [if_neg hbeside] at hkept
      exact absurd hkept hfile
  | nowhere _ _ _ _ hkept => exact absurd hkept hfile

end Again

/-- After a run that saved its configuration, for scripts that were found without a path or in a
directory, there is a configuration for a run in the same working directory. Unless it is the user's
own, the run is for the same program and looks for scripts in the same directory. If it is the
user's own and nothing is kept beside it, the run is for the same program, but the directory is seen
from the working directory now; it is the same one if it was given, is absolute, or is not said. And
if something is kept beside the user's own configuration, the run is as if nothing had been saved.
-/
theorem conduct_after_saving (host saved : Host) (colored : Bool) (selection : Selection)
    (choices : Choices) (origin : Origin) (suite : Suite) (pattern : Option Text)
    (hplaced : host.Placed) (hsaves : Saves host selection choices origin suite saved)
    (hdirectory : ∀ path, selection.path = some path → host.isDirectory path = true)
    (hwritten : Value.parse (savedConfig host origin.config selection.path).render =
      .ok (savedConfig host origin.config selection.path).toValue)
    (hgiven : ∀ path place, selection.config = some path → saved.resolve path = .ok place →
      ¬ Run.IsLog place) :
    let later := (conduct host colored (.run selection choices)).host
    ∃ again, chosen later ⟨none, selection.config, pattern⟩ none = .ok again ∧
      (¬ UsersOwn host selection origin → Repeats host selection origin suite later again) ∧
      (UsersOwn host selection origin → origin.file = none →
        again.config.program = origin.config.program ∧
          again.config.searchDirectory later.workingPath again.home =
            (savedConfig host origin.config selection.path).searchDirectory host.workingPath
              (some host.workingPath) ∧
          ((selection.path = none →
              ∀ sources, origin.config.testSources = some sources → sources.isAbsolute = true) →
            Repeats host selection origin suite later again)) ∧
      (UsersOwn host selection origin → origin.file ≠ none →
        chosen host ⟨none, none, pattern⟩ none = .ok again) := by
  intro later
  have hlater : saved.ChangesOnly Run.IsLog later := changesOnly_conduct colored hsaves
  by_cases hown : UsersOwn host selection origin
  · by_cases hfile : origin.file = none
    · obtain ⟨again, hagain, hmoved⟩ :=
        exists_chosen_of_usersOwn hplaced hsaves hdirectory hwritten hlater pattern hown hfile
      exact ⟨again, hagain, fun h ↦ absurd hown h, fun _ _ ↦ hmoved, fun _ h ↦ absurd hfile h⟩
    · obtain ⟨again, hagain, hsame⟩ :=
        chosen_of_usersOwn_beside hplaced hsaves hlater pattern hown hfile
      exact ⟨again, hagain, fun h ↦ absurd hown h, fun _ h ↦ absurd h hfile, fun _ _ ↦ hsame⟩
  · obtain ⟨again, hagain, hrepeats⟩ := exists_repeats_of_not_usersOwn hplaced hsaves hdirectory
      hwritten hlater pattern hgiven hown
    exact ⟨again, hagain, fun _ ↦ hrepeats, fun h ↦ absurd h hown, fun h ↦ absurd h hown⟩

/-- The scripts of a directory that is given are run and the configuration is saved, and they are
found again without that. -/
theorem conduct_after_saving_directory :
    let script : Tree := .file (Text.Utf8.encode "\"a\" : \"a\"\n".toList) false
    let host : Host := ⟨.directory [("work".toList, .directory [("suite".toList,
      .directory [("x.test".toList, script)])])], ["work".toList], [], none⟩
    let selection : Selection := ⟨some (.ofString "suite"), none, none⟩
    let choices : Choices := ⟨some "echo".toList, false, .onFailure, true⟩
    let later := (conduct host false (.run selection choices)).host
    ∃ again, chosen later ⟨none, none, none⟩ none = .ok again ∧
      again.config.program = some "echo".toList ∧
        again.config.searchDirectory later.workingPath again.home = .ofString "/work/suite" := by
  intro script host selection choices later
  let config : Config := { Config.standard with program := some "echo".toList }
  let origin : Origin := ⟨config, none, none⟩
  let suite : Suite := ⟨.ofString "suite", [.ofString "suite/x.test"]⟩
  have hplaced : host.Placed := ⟨by decide +kernel, by decide +kernel, by decide +kernel⟩
  have hchosen : chosen host selection choices.program = .ok origin := by decide +kernel
  have hsuite : suiteOf host origin selection.path = .ok suite := by decide +kernel
  obtain ⟨saved, hsave⟩ : ∃ saved,
      (savedConfig host config selection.path).save host origin.target = .ok saved := ⟨_, rfl⟩
  have hdirectory : ∀ path, selection.path = some path → host.isDirectory path = true := by
    rintro _ ⟨⟩
    decide +kernel
  have hwritten : Value.parse (savedConfig host config selection.path).render =
      .ok (savedConfig host config selection.path).toValue := by decide +kernel
  obtain ⟨again, hagain, hrepeats, -⟩ := conduct_after_saving host saved false selection choices
    origin suite none hplaced ⟨rfl, hchosen, hsuite, hsave⟩ hdirectory hwritten
    (fun _ _ h ↦ nomatch h)
  obtain ⟨hprogram, hsearched⟩ := hrepeats fun ⟨_, _, hhome⟩ ↦ nomatch hhome
  have hcanonical : (selection.path.bind host.canonical?).getD suite.directory =
      .ofString "/work/suite" := by decide +kernel
  exact ⟨again, hagain, hprogram, hsearched.trans hcanonical⟩

/-- The user's own configuration says where scripts are relative to its own directory. Saved in the
working directory it says so relative to that. -/
theorem saving_moves_sources :
    let script : Tree := .file (Text.Utf8.encode "\"a\" : \"a\"\n".toList) false
    let text := "test_sources: scripts\nprogram: echo\n".toList
    let host : Host := ⟨.directory [("work".toList, .directory []), ("home".toList,
      .directory [("lockstep".toList, .directory [
        ("config.yaml".toList, .file (Text.Utf8.encode text) false),
        ("scripts".toList, .directory [("a.test".toList, script)])])])],
      ["work".toList], [], some (.ofString "/home")⟩
    let selection : Selection := ⟨none, none, none⟩
    let ending := conduct host false (.run selection ⟨none, false, .onFailure, true⟩)
    let searched (host : Host) := (chosen host selection none).map fun origin ↦
      origin.config.searchDirectory host.workingPath origin.home
    ending.status = .success ∧ searched host = .ok (.ofString "/home/lockstep/scripts") ∧
      searched ending.host = .ok (.ofString "/work/scripts") := by
  decide +kernel

end Session

end Dialogue
