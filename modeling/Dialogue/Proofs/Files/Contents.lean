import Dialogue.Proofs.Files.Entry

/-!
# What files hold

What a host holds in its files is a function of places (`Host.fileAt?`), and hosts with the same
files may still differ in directories (`Host.SameFiles`). Directories that are made change no file,
even if not all of them can be made (`sameFiles_attemptDirectories`). A text that is written changes
the one file to which the path leads then (`exists_of_writeText`).

Both put something in at a place whose directory is there, so nothing has to give way to it
(`Tree.fileAt?_put`).
-/

set_option autoImplicit false
set_option relaxedAutoImplicit false

namespace Dialogue

namespace Tree

/-- What the file at a place holds and whether it is executable, if there is a file. -/
def fileAt? (tree : Tree) (place : Location) : Option (List UInt8 × Bool) :=
  match tree.find? place with
  | some (.file content executable) => some (content, executable)
  | _ => none

variable {tree new : Tree} {place other above : Location}

theorem fileAt?_cons (tree : Tree) (name : Text) (place : Location) :
    tree.fileAt? (name :: place) =
      (tree.entries.lookup name).bind fun child ↦ child.fileAt? place := by
  rw [fileAt?, find?_cons]
  cases tree.entries.lookup name <;> rfl

theorem fileAt?_of_isDirectoryAt (h : tree.isDirectoryAt place = true) :
    tree.fileAt? place = none := by
  rw [isDirectoryAt] at h
  rw [fileAt?]
  rcases hat : tree.find? place with _ | ⟨content, executable⟩ | entries
  · rfl
  · rw [hat] at h
    contradiction
  · rfl

/-- On the way to a directory there are directories. -/
theorem isDirectoryAt_of_prefix (h : tree.isDirectoryAt place = true) (habove : above <+: place) :
    tree.isDirectoryAt above = true := by
  obtain ⟨below, rfl⟩ := habove
  rw [isDirectoryAt, find?_append] at h
  rw [isDirectoryAt]
  rcases hat : tree.find? above with _ | ⟨content, executable⟩ | entries
  · rw [hat] at h
    contradiction
  · rw [hat, Option.bind_some] at h
    cases below <;> contradiction
  · rfl

/-- What is put in is found below its place, and every other file is as before, unless a file gives
way to a directory. -/
theorem fileAt?_put (new : Tree)
    (h : ∀ above, above <+: place → above ≠ place → tree.fileAt? above = none)
    (other : Location) :
    (put new tree place).fileAt? other =
      if place <+: other then new.fileAt? (other.drop place.length) else tree.fileAt? other := by
  induction place generalizing tree other with
  | nil => rw [if_pos List.nil_prefix]; rfl
  | cons name rest ih =>
    cases other with
    | nil =>
      rw [if_neg (by simp)]
      exact (h [] List.nil_prefix (List.cons_ne_nil _ _).symm).symm
    | cons step other =>
      rw [fileAt?_cons, entries_put]
      by_cases hstep : step = name
      · subst hstep
        have hchild : ∀ above, above <+: rest → above ≠ rest →
            ((tree.entries.lookup step).getD empty).fileAt? above = none := by
          intro above habove hne
          have htree := h (step :: above) (List.cons_prefix_cons.mpr ⟨rfl, habove⟩)
            fun heq ↦ hne (List.cons.inj heq).2
          rw [fileAt?_cons] at htree
          rcases hlookup : tree.entries.lookup step with _ | child
          · cases above <;> rfl
          · rwa [hlookup] at htree
        rw [lookup_setEntry_self, Option.bind_some, ih hchild]
        simp only [List.cons_prefix_cons, true_and, List.length_cons, List.drop_succ_cons]
        rw [fileAt?_cons]
        -- Where there was nothing, there was no file either.
        rcases tree.entries.lookup step with _ | child
        · cases other <;> rfl
        · rfl
      · rw [lookup_setEntry_of_ne hstep, ← fileAt?_cons, if_neg]
        exact fun hprefix ↦ hstep (List.cons_prefix_cons.mp hprefix).1.symm

end Tree

namespace Host

/-- What the file at a place holds and whether it is executable, if there is a file. -/
def fileAt? (host : Host) (place : Location) : Option (List UInt8 × Bool) :=
  host.tree.fileAt? place

/-- Two hosts have the same files. -/
def SameFiles (host other : Host) : Prop :=
  ∀ place, other.fileAt? place = host.fileAt? place

theorem SameFiles.refl (host : Host) : host.SameFiles host := fun _ ↦ rfl

theorem SameFiles.trans {first second third : Host} (h : first.SameFiles second)
    (hnext : second.SameFiles third) : first.SameFiles third :=
  fun place ↦ (hnext place).trans (h place)

variable {host made after : Host} {path : Path} {place : Location} {text : Text}

/-! ### Putting something in where a path leads -/

/-- A path leads to something in a directory that is there. -/
theorem isDirectoryAt_dropLast_of_resolve (h : host.resolve path = .ok place) :
    host.isDirectoryAt place.dropLast = true := by
  rw [resolve_eq] at h
  split at h
  · contradiction
  rcases List.eq_nil_or_concat (Text.splitOn '/' path.text) with hnil | ⟨pieces, piece, hpieces⟩
  · exact absurd hnil (Text.splitOn_ne_nil _ _)
  rw [hpieces, List.concat_eq_append] at h
  obtain ⟨between, -, hbetween, hadvance⟩ := walk_concat_eq_ok_iff.mp h
  rw [advance] at hadvance
  split_ifs at hadvance
  · obtain rfl := Except.ok.inj hadvance
    exact Tree.isDirectoryAt_of_prefix hbetween (List.dropLast_prefix _)
  · obtain rfl := Except.ok.inj hadvance
    exact Tree.isDirectoryAt_of_prefix hbetween
      ((List.dropLast_prefix _).trans (List.dropLast_prefix _))
  · obtain rfl := Except.ok.inj hadvance
    rwa [List.dropLast_concat]

/-- Where a path leads, what is put in changes no file but those below the place. -/
theorem fileAt?_put_of_resolve (h : host.resolve path = .ok place) (new : Tree)
    (other : Location) :
    (host.put place new).fileAt? other =
      if place <+: other then new.fileAt? (other.drop place.length) else host.fileAt? other := by
  refine Tree.fileAt?_put new (fun above habove hne ↦ ?_) other
  have hdirectory := isDirectoryAt_dropLast_of_resolve h
  refine Tree.fileAt?_of_isDirectoryAt (Tree.isDirectoryAt_of_prefix hdirectory ?_)
  rcases List.eq_nil_or_concat place with rfl | ⟨init, last, rfl⟩
  · exact absurd (List.prefix_nil.mp habove) hne
  · rw [List.concat_eq_append] at habove hne ⊢
    rw [List.dropLast_concat]
    exact (List.prefix_concat_iff.mp habove).resolve_left hne

/-- Below a place without a directory there are no files. -/
theorem fileAt?_below (h : host.isDirectoryAt place = false) {below : Location}
    (hne : below ≠ []) : host.fileAt? (place ++ below) = none := by
  change (host.tree.find? place).any Tree.isDirectory = false at h
  rw [fileAt?, Tree.fileAt?, Tree.find?_append]
  rcases hat : host.tree.find? place with _ | ⟨content, executable⟩ | entries
  · rfl
  · cases below with
    | nil => contradiction
    | cons name below => rfl
  · rw [hat] at h
    contradiction

/-! ### Making directories -/

theorem sameFiles_makeDirectory (h : host.makeDirectory path = .ok made) :
    host.SameFiles made := by
  rw [makeDirectory] at h
  simp only [bind, Except.bind] at h
  split at h
  · contradiction
  next place hresolve =>
  split at h
  · contradiction
  next hnone =>
  obtain rfl := Except.ok.inj h
  intro other
  rw [fileAt?_put_of_resolve hresolve]
  split_ifs with hprefix
  · obtain ⟨below, rfl⟩ := hprefix
    have hbefore : host.fileAt? (place ++ below) = none := by
      change host.tree.find? place = none at hnone
      rw [fileAt?, Tree.fileAt?, Tree.find?_append, hnone]
      rfl
    rw [hbefore, List.drop_left]
    cases below <;> rfl
  · rfl

section Attempts

variable {Related : Host → Host → Prop} (hrefl : ∀ host, Related host host)
  (htrans : ∀ {first second third}, Related first second → Related second third →
    Related first third)
  (hmake : ∀ {host made path}, host.makeDirectory path = .ok made → Related host made)

include hrefl hmake in
theorem related_ensureDirectory (host : Host) (path : Path) :
    Related host (host.ensureDirectory path).2 := by
  rw [ensureDirectory]
  rcases hmade : host.makeDirectory path with error | made
  · exact hrefl host
  · exact hmake hmade

include hrefl htrans hmake in
/-- What holds between a host and the one with a directory made holds when directories are made one
after the other, even if some cannot be made. -/
theorem related_attemptDirectories (host : Host) (path : Path) :
    Related host (host.attemptDirectories path).2 := by
  rw [attemptDirectories]
  generalize path.text.length + 1 = depth
  induction depth generalizing path with
  | zero => exact hrefl host
  | succ depth ih =>
    rw [makeDirectoriesUpTo.eq_def]
    dsimp only
    split_ifs
    · exact hrefl host
    split
    · next parent _ _ =>
      have habove := ih parent
      split
      · next above hmade =>
        rw [hmade] at habove
        exact htrans habove (related_ensureDirectory hrefl hmake above path)
      · next error above hmade =>
        rw [hmade] at habove
        exact habove
    · exact related_ensureDirectory hrefl hmake host path

end Attempts

/-- Directories that are made change no file, even if some cannot be made. -/
theorem sameFiles_attemptDirectories (host : Host) (path : Path) :
    host.SameFiles (host.attemptDirectories path).2 :=
  related_attemptDirectories .refl .trans sameFiles_makeDirectory host path

/-- Directories have been made if all of them could be. -/
theorem eq_of_makeDirectories (h : host.makeDirectories path = .ok made) :
    (host.attemptDirectories path).2 = made := by
  rw [makeDirectories] at h
  rcases hattempt : host.attemptDirectories path with ⟨error | done, after⟩
  · rw [hattempt] at h
    contradiction
  · rw [hattempt] at h
    exact Except.ok.inj h

theorem sameFiles_makeDirectories (h : host.makeDirectories path = .ok made) :
    host.SameFiles made :=
  eq_of_makeDirectories h ▸ host.sameFiles_attemptDirectories path

/-! ### Writing a file -/

theorem resolve_of_placeForFile (h : host.placeForFile path = .ok place) :
    host.resolve path = .ok place ∧ host.isDirectoryAt place = false := by
  by_cases hlast : path.text.getLast? = some '/'
  · rw [placeForFile, if_pos hlast] at h
    split at h
    · contradiction
    · simp only [bind, Except.bind] at h
      split at h <;> contradiction
  · rcases hresolve : host.resolve path with error | target
    · rw [placeForFile, if_neg hlast, hresolve] at h
      contradiction
    · rw [placeForFile_of_resolve hlast hresolve] at h
      split_ifs at h with hdirectory
      obtain rfl := Except.ok.inj h
      exact ⟨rfl, Bool.eq_false_iff.mpr hdirectory⟩

/-- A path still leads to the place of a file that was put in there. -/
theorem resolve_put_of_resolve (hresolve : host.resolve path = .ok place)
    (hfree : host.isDirectoryAt place = false) (new : Tree) :
    (host.put place new).resolve path = .ok place := by
  have hkeeps := keeps_put hfree new
  rw [resolve_eq] at hresolve ⊢
  split at hresolve
  · contradiction
  · rw [hkeeps.originOf]
    exact hkeeps.walk hresolve

/-- A file that is put in changes no other one. -/
theorem fileAt?_put_file (hresolve : host.resolve path = .ok place)
    (hfree : host.isDirectoryAt place = false) (content : List UInt8) (executable : Bool)
    (other : Location) :
    (host.put place (.file content executable)).fileAt? other =
      if other = place then some (content, executable) else host.fileAt? other := by
  rw [fileAt?_put_of_resolve hresolve]
  split_ifs with hprefix hother hother
  · rw [hother, List.drop_length]
    rfl
  · obtain ⟨below, rfl⟩ := hprefix
    have hbelow : below ≠ [] := fun hnil ↦ hother (hnil ▸ List.append_nil place)
    rw [fileAt?_below hfree hbelow, List.drop_left]
    cases below with
    | nil => contradiction
    | cons name below => rfl
  · exact absurd (hother ▸ List.prefix_rfl) hprefix
  · rfl

/-- A text that is written is what one file holds afterwards, and the other files hold what they
held. -/
theorem exists_of_writeText (h : host.writeText path text = .ok after) :
    ∃ place executable, after.resolve path = .ok place ∧
      after.fileAt? place = some (Text.Utf8.encode text, executable) ∧
      ∀ other, other ≠ place → after.fileAt? other = host.fileAt? other := by
  rcases hplace : host.placeForFile path with error | place
  · rw [writeText, hplace] at h
    contradiction
  obtain ⟨hresolve, hfree⟩ := resolve_of_placeForFile hplace
  obtain ⟨executable, rfl⟩ : ∃ executable,
      host.put place (.file (Text.Utf8.encode text) executable) = after := by
    rw [writeText, hplace] at h
    exact ⟨_, Except.ok.inj h⟩
  refine ⟨place, executable, resolve_put_of_resolve hresolve hfree _, ?_, fun other hne ↦ ?_⟩
  · rw [fileAt?_put_file hresolve hfree, if_pos rfl]
  · rw [fileAt?_put_file hresolve hfree, if_neg hne]

end Host

end Dialogue
