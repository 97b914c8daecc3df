import Dialogue.Proofs.Files.Entry
import Dialogue.Proofs.Run.Schedule
import Mathlib.Data.List.Nodup

/-!
# The logs of a schedule

Every run stores its transcript in one directory, under a name that is made of the name of its
script (`logName`) and always is one that an entry of a directory may have (`isEntryName_logName`).
A log that is stored makes no other one impossible (`Storable.of_store`), leaves the logs of other
names as they were (`readText_store_of_ne`) and says what was stored (`readText_store_self`). By
induction on the jobs, a log is read as it was stored until one of the same name is
(`readText_runJobs`).

The name does not tell in which directory the script is, nor what its extension is. Scripts that
differ in nothing else share a log, and the one that runs last has it (`log_overwritten`); all
others keep theirs (`logs_kept`).
-/

set_option autoImplicit false
set_option relaxedAutoImplicit false

namespace Dialogue

/-! ### Names of logs -/

namespace Path

theorem eq_of_componentOf?_eq_name {leading : Bool} {piece name : Text}
    (h : componentOf? leading piece = some (.name name)) : name = piece := by
  unfold componentOf? at h
  split_ifs at h
  · nomatch Option.some.inj h
  · nomatch Option.some.inj h
  · exact (Component.name.inj (Option.some.inj h)).symm

/-- A component that is a name is one of the pieces between the separators. -/
theorem name_mem_of_mem_locate {leading : Bool} {offset stop : Nat} {pieces : List Text}
    {name : Text} (h : (.name name, stop) ∈ locate leading offset pieces) : name ∈ pieces := by
  induction pieces generalizing leading offset with
  | nil => contradiction
  | cons piece pieces ih =>
    rw [locate] at h
    rcases hpiece : componentOf? leading piece with _ | component
    · rw [hpiece] at h
      exact List.mem_cons_of_mem piece (ih h)
    · rw [hpiece] at h
      rcases List.mem_cons.mp h with heq | h
      · obtain ⟨rfl, -⟩ := Prod.mk.inj heq
        exact eq_of_componentOf?_eq_name hpiece ▸ List.mem_cons_self
      · exact List.mem_cons_of_mem piece (ih h)

/-- The last name of a path holds no separator. -/
theorem separator_notMem_of_fileName? {path : Path} {name : Text}
    (h : path.fileName? = some name) : '/' ∉ name := by
  have hlast : path.components.getLast? = some (.name name) := by
    unfold fileName? at h
    split at h
    · next found hfound => rw [hfound, Option.some.inj h]
    · contradiction
  obtain ⟨⟨component, stop⟩, hmem, rfl⟩ := List.mem_map.mp (List.mem_of_getLast? hlast)
  refine Text.separator_notMem_of_mem_splitOn '/' path.text name ?_
  rw [located] at hmem
  split_ifs at hmem
  · rcases List.mem_cons.mp hmem with heq | hmem
    · exact absurd (congrArg Prod.fst heq) (by simp)
    · exact name_mem_of_mem_locate hmem
  · exact name_mem_of_mem_locate hmem

/-- A name without its extension is made of characters of the name. -/
theorem mem_of_mem_stemOf {name : Text} {c : Char} (h : c ∈ stemOf name) : c ∈ name := by
  unfold stemOf at h
  split at h
  · exact h
  · next dot stem heq =>
    split_ifs at h
    · exact h
    · have hmem : c ∈ name.reverse.dropWhile (· != '.') := by
        rw [heq]
        exact List.mem_cons_of_mem dot (List.mem_reverse.mp h)
      exact List.mem_reverse.mp ((List.dropWhile_suffix _).mem hmem)

end Path

namespace Run

theorem separator_notMem_logName (path : Path) : '/' ∉ logName path := by
  refine List.not_mem_append ?_ (by decide +kernel)
  rw [Path.stem?]
  rcases hname : path.fileName? with _ | name
  · exact List.not_mem_nil
  · exact fun hmem ↦ Path.separator_notMem_of_fileName? hname (Path.mem_of_mem_stemOf hmem)

theorem getLast?_logName (path : Path) : (logName path).getLast? = some 'g' := by
  rw [logName, List.getLast?_append_of_ne_nil _ (by decide +kernel)]
  decide +kernel

/-- A log can be called by its name, whatever the path of its script is. -/
theorem isEntryName_logName (path : Path) : (logName path).IsEntryName := by
  have hlast := getLast?_logName path
  refine ⟨separator_notMem_logName path, ?_, ?_, ?_⟩ <;>
    (intro heq; rw [heq] at hlast; exact absurd hlast (by decide))

/-! ### Storing a log -/

/-- The log of a script can be stored in a directory, whatever it says. -/
def Storable (host : Host) (directory path : Path) : Prop :=
  ∀ text, ∃ stored, store host directory (logPath directory path) text = .ok stored

section Store

variable {host stored : Host} {directory path other : Path} {text : Text}

/-- A log is stored in the directory that is there or made for it, if that takes a file of its name.
-/
theorem store_eq_ok_iff :
    store host directory (logPath directory path) text = .ok stored ↔
      ∃ made place, host.makeDirectories directory = .ok made ∧
        made.Takes directory (logName path) place ∧
        stored = made.withFile place (logName path) text := by
  rw [store, logPath]
  rcases host.makeDirectories directory with error | made
  · simp [bind, Except.bind]
  · simp only [bind, Except.bind, Host.writeText_child_eq_ok_iff (isEntryName_logName path),
      Except.ok.injEq, exists_eq_left', exists_and_left]

/-- What a log says does not decide whether it can be stored. -/
theorem storable_iff :
    Storable host directory path ↔
      (store host directory (logPath directory path) []).isOk = true := by
  constructor
  · intro h
    obtain ⟨stored, hstored⟩ := h []
    rw [hstored]
    rfl
  · intro h again
    rcases hempty : store host directory (logPath directory path) [] with error | stored
    · rw [hempty] at h
      contradiction
    · obtain ⟨made, place, hmade, htakes, -⟩ := store_eq_ok_iff.mp hempty
      exact ⟨_, store_eq_ok_iff.mpr ⟨made, place, hmade, htakes, rfl⟩⟩

instance (host : Host) (directory path : Path) : Decidable (Storable host directory path) :=
  decidable_of_iff _ storable_iff.symm

/-- A log that is stored makes no other one impossible. -/
theorem Storable.of_store (hother : Storable host directory other)
    (h : store host directory (logPath directory path) text = .ok stored) :
    Storable stored directory other := by
  obtain ⟨before, hbefore⟩ := hother []
  obtain ⟨made, place, hmade, htakes, rfl⟩ := store_eq_ok_iff.mp h
  obtain ⟨made', place', hmade', htakes', -⟩ := store_eq_ok_iff.mp hbefore
  obtain rfl : made = made' := Except.ok.inj (hmade.symm.trans hmade')
  obtain rfl : place = place' := htakes.enters.unique htakes'.enters
  have hagain := htakes.withFile htakes' text
  exact fun again ↦ ⟨_, store_eq_ok_iff.mpr
    ⟨_, place, hagain.makeDirectories_eq (isEntryName_logName other), hagain, rfl⟩⟩

/-- A log that is stored says what was stored. -/
theorem readText_store_self
    (h : store host directory (logPath directory path) text = .ok stored) :
    stored.readText (logPath directory path) = .ok text := by
  obtain ⟨made, place, -, htakes, rfl⟩ := store_eq_ok_iff.mp h
  exact Host.readText_withFile_self htakes (isEntryName_logName path) text

/-- A log of another name says what it said. -/
theorem readText_store_of_ne (h : store host directory (logPath directory path) text = .ok stored)
    (hne : logName path ≠ logName other) {said : Text}
    (hread : host.readText (logPath directory other) = .ok said) :
    stored.readText (logPath directory other) = .ok said := by
  obtain ⟨place', htakes'⟩ := Host.takes_of_readText (isEntryName_logName other) hread
  obtain ⟨made, place, hmade, htakes, rfl⟩ := store_eq_ok_iff.mp h
  -- The directory is there already.
  have hsame := htakes'.makeDirectories_eq (isEntryName_logName other)
  obtain rfl : made = host := Except.ok.inj (hmade.symm.trans hsame)
  obtain rfl : place = place' := htakes.enters.unique htakes'.enters
  rw [← hread]
  exact Host.readText_withFile_of_ne htakes htakes' (isEntryName_logName other) hne.symm text

end Store

/-! ### The logs of a run -/

/-- A run whose log can be stored says where it is, and it is there. -/
theorem logged_of_storable {host : Host} {program : Program} {path directory : Path}
    {script : Script} {options : Options} (hoptions : options.logDirectory = some directory)
    (hstorable : Storable host directory path) :
    ∃ report stored, logged host program path script options = (report, stored) ∧
      report.path = path ∧ report.logPath = some (logPath directory path) ∧
      store host directory (logPath directory path) report.transcript = .ok stored := by
  obtain ⟨stored, hstored⟩ := hstorable (Run.script program path script options.marks).transcript
  have hlog : logged host program path script options =
      ({ Run.script program path script options.marks with
        logPath := some (logPath directory path) }, stored) := by
    have hpath : (Run.script program path script options.marks).path = path := rfl
    simp only [logged, withLog, hoptions, hpath, hstored]
  exact ⟨_, _, hlog, rfl, rfl, hstored⟩

namespace Schedule

/-- The reports of a run are about the scripts of its jobs. -/
theorem map_path_runJobs (program : Program) (options : Options) (index total : Nat) (host : Host)
    (jobs : List Job) :
    (runJobs program options index total host jobs).2.1.map Report.path = jobs.map Job.path := by
  have hreports := congrArg (List.map Report.path)
    (map_withoutLog_runJobs program options index total host jobs)
  rwa [List.map_map, List.map_map] at hreports

section Jobs

variable {program : Program} {options : Options} {directory : Path} {host : Host} {jobs : List Job}
  (hoptions : options.logDirectory = some directory)
  (hstorable : ∀ job ∈ jobs, Storable host directory job.path)

include hoptions hstorable

/-- A log is read as it was until one of the same name is stored. -/
theorem readText_runJobs (index total : Nat) {path : Path} {said : Text}
    (hread : host.readText (logPath directory path) = .ok said)
    (hother : ∀ job ∈ jobs, logName job.path ≠ logName path) :
    (runJobs program options index total host jobs).2.2.readText (logPath directory path) =
      .ok said := by
  induction jobs generalizing index host with
  | nil => exact hread
  | cons job jobs ih =>
    obtain ⟨hjob, hjobs⟩ := List.forall_mem_cons.mp hstorable
    obtain ⟨hne, hothers⟩ := List.forall_mem_cons.mp hother
    obtain ⟨report, stored, hlogged, -, -, hstored⟩ := logged_of_storable hoptions hjob
    rw [runJobs, hlogged]
    exact ih (fun job hmem ↦ (hjobs job hmem).of_store hstored) (index + 1)
      (readText_store_of_ne hstored hne hread) hothers

/-- Each report says where its log is. -/
theorem logPath_of_mem_runJobs (index total : Nat) :
    ∀ report ∈ (runJobs program options index total host jobs).2.1,
      report.logPath = some (logPath directory report.path) := by
  induction jobs generalizing index host with
  | nil => exact fun report hmem ↦ absurd hmem List.not_mem_nil
  | cons job jobs ih =>
    obtain ⟨hjob, hjobs⟩ := List.forall_mem_cons.mp hstorable
    obtain ⟨report, stored, hlogged, hpath, hlog, hstored⟩ := logged_of_storable hoptions hjob
    rw [runJobs, hlogged]
    exact List.forall_mem_cons.mpr ⟨hpath ▸ hlog,
      ih (fun job hmem ↦ (hjobs job hmem).of_store hstored) (index + 1)⟩

/-- The last report of a log's name is the one that the log has. -/
theorem readText_of_last (index total : Nat) {earlier later : List Report} {report : Report}
    (hreports : (runJobs program options index total host jobs).2.1 = earlier ++ report :: later)
    (hlast : ∀ other ∈ later, logName other.path ≠ logName report.path) :
    (runJobs program options index total host jobs).2.2.readText
      (logPath directory report.path) = .ok report.transcript := by
  induction jobs generalizing index host earlier with
  | nil => exact absurd hreports (by simp [runJobs])
  | cons job jobs ih =>
    obtain ⟨hjob, hjobs⟩ := List.forall_mem_cons.mp hstorable
    obtain ⟨first, stored, hlogged, hpath, -, hstored⟩ := logged_of_storable hoptions hjob
    have hrest : ∀ job ∈ jobs, Storable stored directory job.path :=
      fun job hmem ↦ (hjobs job hmem).of_store hstored
    have hpaths := map_path_runJobs program options (index + 1) total stored jobs
    rw [runJobs, hlogged] at hreports ⊢
    rcases List.cons_eq_append_iff.mp hreports with ⟨-, heq⟩ | ⟨earlier, -, heq⟩
    · -- It is the log of the first job, and no later one has its name.
      obtain ⟨rfl, rfl⟩ := List.cons.inj heq
      have hnames : ∀ path ∈ jobs.map Job.path, logName path ≠ logName report.path := by
        rw [← hpaths]
        exact List.forall_mem_map.mpr hlast
      have hread : stored.readText (logPath directory report.path) = .ok report.transcript := by
        rw [hpath]
        exact readText_store_self hstored
      exact readText_runJobs hoptions hrest (index + 1) total hread fun job hmem ↦
        hnames job.path (List.mem_map_of_mem hmem)
    · exact ih hrest (index + 1) heq

end Jobs

end Schedule

/-! ### Shared logs -/

/-- The log of a report holds its transcript. -/
def Kept (final : Host) (directory : Path) (report : Report) : Prop :=
  final.readText (logPath directory report.path) = .ok report.transcript

instance (final : Host) (directory : Path) (report : Report) :
    Decidable (Kept final directory report) :=
  inferInstanceAs (Decidable (_ = _))

section Shared

variable {final : Host} {directory : Path} {reports : List Report}

/-- Among the reports that share a log there is a last one. -/
theorem exists_last {report : Report} (h : report ∈ reports) :
    ∃ earlier last later, reports = earlier ++ last :: later ∧
      logName last.path = logName report.path ∧
      ∀ other ∈ later, logName other.path ≠ logName last.path := by
  let named (other : Report) : Bool := logName other.path = logName report.path
  have hsome : (reports.reverse.find? named).isSome :=
    List.find?_isSome.mpr ⟨report, List.mem_reverse.mpr h, decide_eq_true rfl⟩
  obtain ⟨last, hlast⟩ := Option.isSome_iff_exists.mp hsome
  obtain ⟨hname, later, earlier, hsplit, hlater⟩ := List.find?_eq_some_iff_append.mp hlast
  have hname : logName last.path = logName report.path := of_decide_eq_true hname
  refine ⟨earlier.reverse, last, later.reverse, ?_, hname, fun other hmem ↦ ?_⟩
  · rw [← reports.reverse_reverse, hsplit]
    simp
  · rw [hname]
    simpa [named] using hlater other (List.mem_reverse.mp hmem)

/-- Where the last report that shares a log has it, all are kept exactly if the reports that share a
log have the same transcript. -/
theorem forall_kept_iff
    (hlast : ∀ earlier report later, reports = earlier ++ report :: later →
      (∀ other ∈ later, logName other.path ≠ logName report.path) → Kept final directory report) :
    (∀ report ∈ reports, Kept final directory report) ↔
      ∀ first ∈ reports, ∀ second ∈ reports,
        logName first.path = logName second.path → first.transcript = second.transcript := by
  constructor
  · intro hkept first hfirst second hsecond hname
    have hread : final.readText (logPath directory first.path) = .ok second.transcript := by
      rw [logPath, hname]
      exact hkept second hsecond
    exact Except.ok.inj ((hkept first hfirst).symm.trans hread)
  · intro hsame report hmem
    obtain ⟨earlier, last, later, rfl, hname, hlater⟩ := exists_last hmem
    have hread : Kept final directory last := hlast earlier last later rfl hlater
    have hlastMem : last ∈ earlier ++ last :: later :=
      List.mem_append_right earlier List.mem_cons_self
    rw [Kept, logPath, hname, hsame last hlastMem report hmem hname] at hread
    exact hread

end Shared

namespace Schedule

/-- Every run stores its log, and the last one of a name keeps it. Where all logs can be stored, the
reports are about the scripts of the queue, in its order, and each of them says where its log is.
The log there holds the transcript of the last report that shares it. So all scripts keep their own
transcripts exactly if those that share a log have the same one, which is so if none do. -/
theorem logs_kept (schedule : Schedule) (host : Host) {directory : Path}
    (hoptions : schedule.options.logDirectory = some directory)
    (hstorable : ∀ job ∈ schedule.queue, Storable host directory job.path) :
    let (_, summary, final) := schedule.run host
    summary.reports.map Report.path = schedule.queue.map Job.path ∧
      (∀ report ∈ summary.reports, report.logPath = some (logPath directory report.path)) ∧
      (∀ earlier report later, summary.reports = earlier ++ report :: later →
        (∀ other ∈ later, logName other.path ≠ logName report.path) →
        Kept final directory report) ∧
      ((∀ report ∈ summary.reports, Kept final directory report) ↔
        ∀ first ∈ summary.reports, ∀ second ∈ summary.reports,
          logName first.path = logName second.path → first.transcript = second.transcript) ∧
      ((schedule.queue.map fun job ↦ logName job.path).Nodup →
        ∀ report ∈ summary.reports, Kept final directory report) := by
  have hpaths : (schedule.run host).2.1.reports.map Report.path = schedule.queue.map Job.path :=
    map_path_runJobs schedule.program schedule.options 1 schedule.queue.length host schedule.queue
  have hlast (earlier : List Report) (report : Report) (later : List Report)
      (hreports : (schedule.run host).2.1.reports = earlier ++ report :: later)
      (hlater : ∀ other ∈ later, logName other.path ≠ logName report.path) :
      Kept (schedule.run host).2.2 directory report :=
    readText_of_last hoptions hstorable 1 schedule.queue.length hreports hlater
  have hkept := forall_kept_iff hlast
  refine ⟨hpaths, logPath_of_mem_runJobs hoptions hstorable 1 schedule.queue.length, hlast, hkept,
    fun hnodup ↦ hkept.mpr fun first hfirst second hsecond hname ↦ ?_⟩
  have hnames : ((schedule.run host).2.1.reports.map (logName ∘ Report.path)).Nodup := by
    rw [← List.map_map, hpaths, List.map_map]
    exact hnodup
  rw [List.inj_on_of_nodup_map hnames hfirst hsecond hname]

/-- Scripts of different names in different directories. -/
theorem logs_kept_two_directories :
    let script (line : Text) : Script :=
      ⟨none, [.input line, .expect line .exact], List.cons_ne_nil _ _⟩
    let schedule : Schedule :=
      ⟨Program.echo, ⟨Marks.standard, some (.ofString "logs")⟩,
        [⟨.ofString "a/x.test", script "x".toList⟩, ⟨.ofString "b/y.test", script "y".toList⟩], []⟩
    let host : Host := ⟨.empty, [], [], none⟩
    let (_, summary, final) := schedule.run host
    ∀ report ∈ summary.reports, Kept final (.ofString "logs") report := by
  intro script schedule host
  have hoptions : schedule.options.logDirectory = some (.ofString "logs") := rfl
  have hstorable : ∀ job ∈ schedule.queue, Storable host (.ofString "logs") job.path := by
    decide +kernel
  have hnodup : (schedule.queue.map fun job ↦ logName job.path).Nodup := by decide +kernel
  -- The run itself need not be computed.
  clear_value schedule
  exact (logs_kept schedule host hoptions hstorable).2.2.2.2 hnodup

/-- Scripts of one name in two directories: both logs can be stored and both scripts are passed,
both reports say that their log is in the same place, and the transcript of the first one is lost.
-/
theorem log_overwritten :
    let script (line : Text) : Script :=
      ⟨none, [.input line, .expect line .exact], List.cons_ne_nil _ _⟩
    let schedule : Schedule :=
      ⟨Program.echo, ⟨Marks.standard, some (.ofString "logs")⟩,
        [⟨.ofString "a/x.test", script "x".toList⟩, ⟨.ofString "b/x.test", script "y".toList⟩], []⟩
    let host : Host := ⟨.empty, [], [], none⟩
    (schedule.queue.map Job.path).Nodup ∧
      (∀ job ∈ schedule.queue, Storable host (.ofString "logs") job.path) ∧
      let (_, summary, final) := schedule.run host
      summary.reports.map Report.outcome = [.passed, .passed] ∧
        summary.reports.map Report.logPath =
          [some (.ofString "logs/xTest.log"), some (.ofString "logs/xTest.log")] ∧
        summary.reports.map (fun report ↦ decide (Kept final (.ofString "logs") report)) =
          [false, true] := by
  decide +kernel

end Schedule

end Run

end Dialogue
