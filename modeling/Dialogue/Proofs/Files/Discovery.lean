import Dialogue.Discovery
import Dialogue.Proofs.Files.Components
import Mathlib

/-!
# Which files are scripts

A walk leaves out what lies below something excluded without going there. What it comes to is said
with places alone: the places of files at most so many names down, on the way to which nothing is
rejected (`Discovery.mem_filesAt`). What the walk rejects is recognized by the names below the
directory, so a script is a file that is called like one and to which no excluded name leads from
the directory (`Discovery.IsScript`), and `Discovery.scripts_meaning` says that just those are
found.

All of this holds for any matcher `fits` of names and patterns, the one for wildcards being one of
them. It takes a tree in which the entries of a directory can be told apart by their names
(`Tree.Named`).
-/

set_option autoImplicit false
set_option relaxedAutoImplicit false

namespace Dialogue

/-! ### Trees with names -/

namespace Tree

/-- In every directory of a tree the entries have names, and different ones. -/
inductive Named : Tree → Prop
  | file (content : List UInt8) (executable : Bool) : Named (.file content executable)
  | directory {entries : List (Text × Tree)} (nodup : (entries.map Prod.fst).Nodup)
      (isEntryName : ∀ entry ∈ entries, entry.1.IsEntryName)
      (named : ∀ entry ∈ entries, Named entry.2) : Named (.directory entries)

/-- Whether there is a file at a place. -/
def hasFileAt (tree : Tree) (place : Location) : Bool :=
  (tree.find? place).any isFile

variable {entries : List (Text × Tree)} {name : Text} {place : Location}

/-- An entry is found under its name if no other one has that name. -/
theorem lookup_eq_some_iff {tree : Tree} (hnodup : (entries.map Prod.fst).Nodup) :
    entries.lookup name = some tree ↔ (name, tree) ∈ entries := by
  induction entries with
  | nil => simp
  | cons entry rest ih =>
    obtain ⟨other, child⟩ := entry
    rw [List.map_cons, List.nodup_cons] at hnodup
    obtain ⟨hnotMem, hnodup⟩ := hnodup
    rw [List.lookup_cons, List.mem_cons]
    by_cases hname : name = other
    · subst hname
      have hrest : (name, tree) ∉ rest := fun hmem ↦
        hnotMem (List.mem_map.mpr ⟨_, hmem, rfl⟩)
      simp [hrest, eq_comm]
    · simp [beq_eq_false_iff_ne.mpr hname, hname, ih hnodup]

theorem hasFileAt_file (content : List UInt8) (executable : Bool) :
    (file content executable).hasFileAt place = true ↔ place = [] := by
  cases place with
  | nil => simp [hasFileAt, find?, isFile]
  | cons name place => simp [hasFileAt, find?_cons, entries]

/-- A file below a directory is a file below one of the entries. -/
theorem hasFileAt_directory_cons (hnodup : (entries.map Prod.fst).Nodup) :
    (directory entries).hasFileAt (name :: place) = true ↔
      ∃ tree, (name, tree) ∈ entries ∧ tree.hasFileAt place = true := by
  simp only [← lookup_eq_some_iff hnodup]
  rw [hasFileAt, find?_cons]
  change ((entries.lookup name).bind _).any isFile = true ↔ _
  cases entries.lookup name with
  | none => simp
  | some child => simp [hasFileAt]

/-- Names lead to a file. -/
theorem Named.isEntryName {tree : Tree} (h : tree.Named) (hfile : tree.hasFileAt place = true) :
    ∀ name ∈ place, name.IsEntryName := by
  induction h generalizing place with
  | file content executable =>
    rw [(hasFileAt_file content executable).mp hfile]
    exact fun name hname ↦ absurd hname List.not_mem_nil
  | directory hnodup hnames _ ih =>
    cases place with
    | nil => contradiction
    | cons name place =>
      obtain ⟨child, hchild, hfile⟩ := (hasFileAt_directory_cons hnodup).mp hfile
      exact List.forall_mem_cons.mpr ⟨hnames _ hchild, ih _ hchild hfile⟩

end Tree

namespace Discovery

/-! ### Walks -/

variable {rejects : Path → Bool} {depth : Option Nat} {start path : Path}
  {entries : List (Text × Tree)} {place : Location}

/-- A walk from a path on comes to the file at a place: it is not too far down, and nothing on the
way is rejected. -/
structure Reached (rejects : Path → Bool) (depth : Option Nat) (start : Path) (tree : Tree)
    (place : Location) : Prop where
  hasFileAt : tree.hasFileAt place = true
  within : ∀ limit ∈ depth, place.length ≤ limit
  allowed : ∀ above, above <+: place → rejects (start.descend above) = false

theorem reached_file {content : List UInt8} {executable : Bool} :
    Reached rejects depth start (.file content executable) place ↔
      rejects start = false ∧ place = [] := by
  constructor
  · intro h
    exact ⟨h.allowed [] List.nil_prefix, (Tree.hasFileAt_file content executable).mp h.hasFileAt⟩
  · rintro ⟨hstart, rfl⟩
    refine ⟨rfl, fun _ _ ↦ Nat.zero_le _, fun above habove ↦ ?_⟩
    rwa [List.prefix_nil.mp habove]

/-- A walk goes on from a directory to its entries, with one step less to go. -/
theorem reached_directory (hnodup : (entries.map Prod.fst).Nodup) :
    Reached rejects depth start (.directory entries) place ↔
      rejects start = false ∧ depth ≠ some 0 ∧ ∃ entry ∈ entries, ∃ below,
        place = entry.1 :: below ∧
          Reached rejects (depth.map Nat.pred) (start.child entry.1) entry.2 below := by
  constructor
  · rintro ⟨hfile, hwithin, hallowed⟩
    cases place with
    | nil => contradiction
    | cons name below =>
      obtain ⟨tree, hentry, hfile⟩ := (Tree.hasFileAt_directory_cons hnodup).mp hfile
      refine ⟨hallowed [] List.nil_prefix, ?_, (name, tree), hentry, below, rfl, hfile, ?_, ?_⟩
      · rintro rfl
        exact absurd (hwithin 0 rfl) (Nat.not_succ_le_zero _)
      · intro limit hlimit
        obtain ⟨longer, hlonger, rfl⟩ := Option.map_eq_some_iff.mp hlimit
        exact Nat.le_pred_of_lt (hwithin longer hlonger)
      · exact fun above habove ↦ hallowed (name :: above) (List.cons_prefix_cons.mpr ⟨rfl, habove⟩)
  · rintro ⟨hstart, hdepth, ⟨name, tree⟩, hentry, below, rfl, hfile, hwithin, hallowed⟩
    refine ⟨(Tree.hasFileAt_directory_cons hnodup).mpr ⟨tree, hentry, hfile⟩, ?_, ?_⟩
    · intro limit hlimit
      obtain rfl : depth = some limit := hlimit
      have hle := hwithin limit.pred rfl
      have hne : limit ≠ 0 := fun hzero ↦ hdepth (congrArg some hzero)
      rw [List.length_cons]
      exact Nat.succ_le_of_lt (Nat.lt_of_le_pred (Nat.pos_of_ne_zero hne) hle)
    · intro above habove
      cases above with
      | nil => exact hstart
      | cons other above =>
        obtain ⟨rfl, hbelow⟩ := List.cons_prefix_cons.mp habove
        exact hallowed above hbelow

theorem filesIn_eq_flatMap (rejects : Path → Bool) (depth : Option Nat) (path : Path)
    (entries : List (Text × Tree)) :
    filesIn rejects depth path entries =
      entries.flatMap fun entry ↦ filesAt rejects depth (path.child entry.1) entry.2 := by
  induction entries with
  | nil => rfl
  | cons entry rest ih => rw [filesIn, ih, List.flatMap_cons]

theorem filesAt_directory (rejects : Path → Bool) (depth : Option Nat) (path : Path)
    (entries : List (Text × Tree)) :
    filesAt rejects depth path (.directory entries) =
      if rejects path = true ∨ depth = some 0 then []
      else entries.flatMap fun entry ↦
        filesAt rejects (depth.map Nat.pred) (path.child entry.1) entry.2 := by
  rw [filesAt, filesIn_eq_flatMap]
  by_cases hrejects : rejects path = true <;> simp [hrejects]

/-- A walk comes to the files at the places that it reaches. -/
theorem mem_filesAt {tree : Tree} (h : tree.Named) :
    path ∈ filesAt rejects depth start tree ↔
      ∃ place, Reached rejects depth start tree place ∧ path = start.descend place := by
  induction h generalizing depth start with
  | file content executable =>
    simp only [reached_file]
    rw [filesAt]
    by_cases hstart : rejects start = true <;> simp [hstart]
  | @directory entries hnodup _ _ ih =>
    rw [filesAt_directory]
    split_ifs with hclosed
    · -- The walk does not enter the directory.
      refine iff_of_false List.not_mem_nil ?_
      rintro ⟨place, hreached, -⟩
      obtain ⟨hstart, hdepth, -⟩ := (reached_directory hnodup).mp hreached
      rcases hclosed with hrejects | hzero
      · exact absurd hrejects (Bool.eq_false_iff.mp hstart)
      · exact hdepth hzero
    · obtain ⟨hstart, hdepth⟩ := not_or.mp hclosed
      rw [List.mem_flatMap]
      constructor
      · rintro ⟨entry, hentry, hpath⟩
        obtain ⟨below, hreached, rfl⟩ := (ih entry hentry).mp hpath
        exact ⟨entry.1 :: below, (reached_directory hnodup).mpr
          ⟨Bool.eq_false_iff.mpr hstart, hdepth, entry, hentry, below, rfl, hreached⟩, rfl⟩
      · rintro ⟨place, hreached, rfl⟩
        obtain ⟨-, -, entry, hentry, below, rfl, hbelow⟩ := (reached_directory hnodup).mp hreached
        exact ⟨entry, hentry, (ih entry hentry).mpr ⟨below, hbelow, rfl⟩⟩

/-- A walk comes to every file once. -/
theorem nodup_filesAt {tree : Tree} (h : tree.Named) :
    ((filesAt rejects depth start tree).map Path.components).Nodup := by
  induction h generalizing depth start with
  | file content executable =>
    rw [filesAt]
    split_ifs
    · exact List.nodup_nil
    · exact List.pairwise_singleton _ _
  | @directory entries hnodup hnames hnamed ih =>
    rw [filesAt_directory]
    split_ifs
    · exact List.nodup_nil
    rw [List.map_flatMap, List.nodup_flatMap]
    refine ⟨fun entry hentry ↦ ih entry hentry, ?_⟩
    -- What lies below different entries differs in the first name below the directory.
    have hdistinct : entries.Pairwise fun first second ↦ first.1 ≠ second.1 :=
      List.pairwise_map.mp hnodup
    refine hdistinct.imp_of_mem fun {first second} hfirst hsecond hne ↦ ?_
    intro components hinFirst hinSecond
    obtain ⟨path, hpath, rfl⟩ := List.mem_map.mp hinFirst
    obtain ⟨other, hother, heq⟩ := List.mem_map.mp hinSecond
    obtain ⟨place, hplace, rfl⟩ := (mem_filesAt (hnamed first hfirst)).mp hpath
    obtain ⟨below, hbelow, rfl⟩ := (mem_filesAt (hnamed second hsecond)).mp hother
    have hplaces : second.1 :: below = first.1 :: place :=
      Path.eq_of_components_descend
        (List.forall_mem_cons.mpr
          ⟨hnames second hsecond, (hnamed second hsecond).isEntryName hbelow.hasFileAt⟩)
        (List.forall_mem_cons.mpr
          ⟨hnames first hfirst, (hnamed first hfirst).isEntryName hplace.hasFileAt⟩) heq
    exact hne (List.cons.inj hplaces).1.symm

/-! ### Scripts -/

/-- A script of a suite, by the names that lead to it from the directory: a file with a name that
fits the pattern, to which no excluded name leads, and which lies in the directory itself unless
directories in it are searched as well. -/
structure IsScript (fits : Text → Text → Bool) (config : Config) (tree : Tree)
    (place : Location) : Prop where
  hasFileAt : tree.hasFileAt place = true
  matching : ∃ name ∈ place.getLast?, ∃ pattern ∈ Pattern.expandBraces config.testPattern,
    fits pattern name = true
  included : ∀ name ∈ place, name ∉ config.exclude
  direct : config.recursive = false → place.length = 1

section

variable {fits : Text → Text → Bool} {config : Config} {directory : Path} {tree : Tree}

/-- Names below the directory are what is excluded, whatever leads to the directory. -/
theorem excludes_descend (hnames : ∀ name ∈ place, name.IsEntryName) :
    config.excludes directory (directory.descend place) = false ↔
      ∀ name ∈ place, name ∉ config.exclude := by
  rw [Config.excludes, Path.componentsBelow_descend hnames]
  simp [Config.bars]

theorem selects_descend (hnames : ∀ name ∈ place, name.IsEntryName) (hne : place ≠ []) :
    config.selects fits (directory.descend place) = true ↔
      ∃ name ∈ place.getLast?, ∃ pattern ∈ Pattern.expandBraces config.testPattern,
        fits pattern name = true := by
  rw [Config.selects, Path.fileName?_descend hnames hne]
  rcases place.getLast? with _ | name <;> simp

/-- Leaving out what lies below something excluded is leaving out the files to which an excluded
name leads. -/
theorem isScript_iff (directory : Path) (h : tree.Named) (hdirectory : tree.isDirectory = true) :
    IsScript fits config tree place ↔
      Reached (config.excludes directory) (depthOf config) directory tree place ∧
        config.selects fits (directory.descend place) = true := by
  have hne (hfile : tree.hasFileAt place = true) : place ≠ [] := by
    rintro rfl
    cases tree with
    | file content executable => contradiction
    | directory entries => contradiction
  constructor
  · rintro ⟨hfile, hmatching, hincluded, hdirect⟩
    have hnames := h.isEntryName hfile
    refine ⟨⟨hfile, fun limit hlimit ↦ ?_, fun above habove ↦ ?_⟩,
      (selects_descend hnames (hne hfile)).mpr hmatching⟩
    · rw [depthOf] at hlimit
      split_ifs at hlimit with hrecursive
      · contradiction
      · obtain rfl : 1 = limit := Option.some.inj hlimit
        exact (hdirect (Bool.eq_false_iff.mpr hrecursive)).le
    · exact (excludes_descend fun name hname ↦ hnames name (habove.subset hname)).mpr
        fun name hname ↦ hincluded name (habove.subset hname)
  · rintro ⟨⟨hfile, hwithin, hallowed⟩, hselects⟩
    have hnames := h.isEntryName hfile
    refine ⟨hfile, (selects_descend hnames (hne hfile)).mp hselects,
      (excludes_descend hnames).mp (hallowed place List.prefix_rfl), fun hrecursive ↦ ?_⟩
    have hlimit : 1 ∈ depthOf config := by
      rw [depthOf, if_neg (Bool.eq_false_iff.mp hrecursive)]
      rfl
    exact Nat.le_antisymm (hwithin 1 hlimit) (List.length_pos_of_ne_nil (hne hfile))

/-- Among the files that a walk comes to, those with a name that fits are the scripts. -/
theorem mem_filter_walked (h : tree.Named) (hdirectory : tree.isDirectory = true) {path : Path} :
    path ∈ (walked config directory tree).filter (config.selects fits) ↔
      ∃ place, IsScript fits config tree place ∧ path = directory.descend place := by
  simp only [isScript_iff directory h hdirectory]
  rw [List.mem_filter, walked, mem_filesAt h]
  constructor
  · rintro ⟨⟨place, hreached, rfl⟩, hselects⟩
    exact ⟨place, ⟨hreached, hselects⟩, rfl⟩
  · rintro ⟨place, ⟨hreached, hselects⟩, rfl⟩
    exact ⟨⟨place, hreached, rfl⟩, hselects⟩

/-- A list of paths holds those of all scripts, each of them once, in order. -/
structure Lists (fits : Text → Text → Bool) (config : Config) (directory : Path) (tree : Tree)
    (found : List Path) : Prop where
  mem_iff : ∀ path, path ∈ found ↔
    ∃ place, IsScript fits config tree place ∧ path = directory.descend place
  increasing : found.Pairwise Path.Precedes

/-- There is only one such list. -/
theorem Lists.unique {first second : List Path} (hfirst : Lists fits config directory tree first)
    (hsecond : Lists fits config directory tree second) : first = second :=
  Path.eq_of_increasing hfirst.increasing hsecond.increasing fun path ↦
    (hfirst.mem_iff path).trans (hsecond.mem_iff path).symm

/-- The list is found whatever the order of the walk. -/
theorem lists_mergeSort (h : tree.Named) (hdirectory : tree.isDirectory = true)
    {visited : List Path} (hvisited : visited.Perm (walked config directory tree)) :
    Lists fits config directory tree ((visited.filter (config.selects fits)).mergeSort Path.le) := by
  have hfound := hvisited.filter (config.selects fits)
  refine ⟨fun path ↦ ?_, Path.pairwise_mergeSort_precedes ?_⟩
  · rw [List.mem_mergeSort, hfound.mem_iff, mem_filter_walked h hdirectory]
  · rw [(hfound.map Path.components).nodup_iff]
    exact (nodup_filesAt h).sublist (List.filter_sublist.map _)

theorem Lists.eq_nil_iff {found : List Path} (h : Lists fits config directory tree found) :
    found = [] ↔ ∀ place, ¬IsScript fits config tree place := by
  rw [List.eq_nil_iff_forall_not_mem]
  constructor
  · exact fun hnone place hscript ↦ hnone _ ((h.mem_iff _).mpr ⟨place, hscript, rfl⟩)
  · intro hnone path hpath
    obtain ⟨place, hscript, -⟩ := (h.mem_iff path).mp hpath
    exact hnone place hscript

/-- Collecting gives the list of the scripts, unless there are none. -/
theorem collect_eq (h : tree.Named) (hdirectory : tree.isDirectory = true)
    {visited found : List Path} (hvisited : visited.Perm (walked config directory tree))
    (hfound : Lists fits config directory tree found) :
    collect fits directory config visited =
      if found = [] then .error (.noScripts directory config.testPattern) else .ok found := by
  obtain rfl := hfound.unique (lists_mergeSort h hdirectory hvisited)
  rw [collect]
  simp only [List.isEmpty_iff, ← List.length_eq_zero_iff, List.length_mergeSort]

theorem scriptsBy_of_lookup? (fits : Text → Text → Bool) (config : Config) {host : Host}
    (hlookup : host.lookup? directory = some tree) (hdirectory : tree.isDirectory = true) :
    scriptsBy fits host directory config =
      collect fits directory config (walked config directory tree) := by
  rw [scriptsBy, hlookup]
  cases tree with
  | file content executable => contradiction
  | directory entries => rfl

theorem scriptsBy_of_not_isDirectory (fits : Text → Text → Bool) (config : Config) {host : Host}
    (h : host.isDirectory directory = false) :
    scriptsBy fits host directory config = .error (.noDirectory directory) := by
  rw [Host.isDirectory] at h
  rw [scriptsBy]
  rcases hlookup : host.lookup? directory with _ | ⟨content, executable⟩ | entries
  · rfl
  · rfl
  · rw [hlookup] at h
    contradiction

end

/-- Scripts are looked for in a directory, and what is found are those below it that are called like
a script and to which no excluded name leads, each of them once and in order, if there are any. It
is an error if there are none, and another one if there is no directory. In what order the walk came
to the files makes no difference. What fits a pattern is for the matcher to say, whichever it is. -/
theorem scripts_meaning (fits : Text → Text → Bool) (host : Host) (directory : Path)
    (config : Config) (hnamed : ∀ tree ∈ host.lookup? directory, tree.Named) :
    (∀ found, scriptsBy fits host directory config = .ok found ↔
        ∃ tree, host.lookup? directory = some tree ∧ tree.isDirectory = true ∧ found ≠ [] ∧
          Lists fits config directory tree found) ∧
      (∀ error, scriptsBy fits host directory config = .error error ↔
        (host.isDirectory directory = false ∧ error = .noDirectory directory) ∨
          ∃ tree, host.lookup? directory = some tree ∧ tree.isDirectory = true ∧
            (∀ place, ¬IsScript fits config tree place) ∧
              error = .noScripts directory config.testPattern) ∧
      ∀ tree visited, host.lookup? directory = some tree → tree.isDirectory = true →
        visited.Perm (walked config directory tree) →
          collect fits directory config visited = scriptsBy fits host directory config := by
  by_cases hdirectory : host.isDirectory directory = true
  · obtain ⟨tree, hlookup, htree⟩ := (Option.any_eq_true _ _).mp hdirectory
    have hname := hnamed tree hlookup
    obtain ⟨listed, hlisted⟩ : ∃ listed, Lists fits config directory tree listed :=
      ⟨_, lists_mergeSort hname htree (.refl _)⟩
    have hscripts := (scriptsBy_of_lookup? fits config hlookup htree).trans
      (collect_eq hname htree (.refl _) hlisted)
    refine ⟨fun found ↦ ⟨fun hok ↦ ?_, ?_⟩, fun error ↦ ⟨fun herror ↦ ?_, ?_⟩, ?_⟩
    · rw [hscripts] at hok
      split_ifs at hok with hempty
      obtain rfl := Except.ok.inj hok
      exact ⟨tree, hlookup, htree, hempty, hlisted⟩
    · rintro ⟨other, hother, -, hne, hfound⟩
      obtain rfl := Option.some.inj (hlookup.symm.trans hother)
      rw [hscripts, hlisted.unique hfound, if_neg hne]
    · rw [hscripts] at herror
      split_ifs at herror with hempty
      exact .inr ⟨tree, hlookup, htree, hlisted.eq_nil_iff.mp hempty,
        (Except.error.inj herror).symm⟩
    · rintro (⟨hnot, -⟩ | ⟨other, hother, -, hnone, rfl⟩)
      · exact absurd hdirectory (Bool.eq_false_iff.mp hnot)
      · obtain rfl := Option.some.inj (hlookup.symm.trans hother)
        rw [hscripts, if_pos (hlisted.eq_nil_iff.mpr hnone)]
    · intro other visited hother _ hvisited
      obtain rfl := Option.some.inj (hlookup.symm.trans hother)
      exact (collect_eq hname htree hvisited hlisted).trans hscripts.symm
  · have hscripts := scriptsBy_of_not_isDirectory fits config (Bool.eq_false_iff.mpr hdirectory)
    have hnone (tree : Tree) (hlookup : host.lookup? directory = some tree) :
        ¬tree.isDirectory = true := fun htree ↦
      hdirectory ((Option.any_eq_true _ _).mpr ⟨tree, hlookup, htree⟩)
    refine ⟨fun found ↦ ⟨fun hok ↦ ?_, ?_⟩, fun error ↦ ⟨fun herror ↦ ?_, ?_⟩, ?_⟩
    · rw [hscripts] at hok
      contradiction
    · rintro ⟨tree, hlookup, htree, -⟩
      exact absurd htree (hnone tree hlookup)
    · rw [hscripts] at herror
      exact .inl ⟨Bool.eq_false_iff.mpr hdirectory, (Except.error.inj herror).symm⟩
    · rintro (⟨-, rfl⟩ | ⟨tree, hlookup, htree, -⟩)
      · exact hscripts
      · exact absurd htree (hnone tree hlookup)
    · exact fun tree _ hlookup htree ↦ absurd htree (hnone tree hlookup)

/-- What is excluded are logs in a suite, and not the suite because it lies among logs. -/
theorem scripts_among_logs :
    let suite : Tree := .directory [("b.test".toList, .file [] false),
      ("logs".toList, .directory [("a.test".toList, .file [] false)]),
      ("more".toList, .directory [("c.test".toList, .file [] false)]),
      ("a.script".toList, .file [] false), ("notes.txt".toList, .file [] false)]
    let host : Host := ⟨.directory [("logs".toList, .directory [("suite".toList, suite)])], [], [],
      none⟩
    let config : Config := { Config.standard with
      recursive := true
      testPattern := "*.\x7btest,script\x7d".toList }
    let found := ["/logs/suite/a.script", "/logs/suite/b.test", "/logs/suite/more/c.test"].map
      Path.ofString
    scripts host (.ofString "/logs/suite") config = .ok found ∧
      Lists Pattern.globMatches config (.ofString "/logs/suite") suite found := by
  intro suite host config found
  have hnamed : suite.Named := by
    refine .directory (by decide) (by decide) ?_
    simp only [List.forall_mem_cons]
    exact ⟨.file _ _, .directory (by decide) (by decide) (by simp [Tree.Named.file]),
      .directory (by decide) (by decide) (by simp [Tree.Named.file]), .file _ _, .file _ _,
      fun _ hentry ↦ absurd hentry List.not_mem_nil⟩
  have hlookup : host.lookup? (.ofString "/logs/suite") = some suite := by
    simp only [host, suite]
    cbv
  have hfound : scripts host (.ofString "/logs/suite") config = .ok found := by
    simp only [host, suite, config, found]
    cbv
  obtain ⟨tree, htree, -, -, hlists⟩ := ((scripts_meaning Pattern.globMatches host
    (.ofString "/logs/suite") config
    fun tree htree ↦ Option.some.inj (hlookup.symm.trans htree) ▸ hnamed).1 found).mp hfound
  obtain rfl := Option.some.inj (hlookup.symm.trans htree)
  exact ⟨hfound, hlists⟩

end Discovery

end Dialogue
