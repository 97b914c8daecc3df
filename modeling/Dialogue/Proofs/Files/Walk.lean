import Dialogue.Files.Host
import Dialogue.Proofs.Files.Tree
import Dialogue.Proofs.Text.Lines
import Dialogue.Proofs.Text.Utf8

/-!
# Walking through a host

A path is followed along a trail, which holds what was found on the way so that nothing is looked up
twice. Where a path leads can be said with places alone: a piece of it goes on from one place to the
next (`Host.advance`), as long as there is a directory to go on from (`Host.walk`), and that is the
place to which a path is resolved (`resolve_eq`). So a path leads to the same place on any host that
still has the directories on its way (`Keeps.walk`).
-/

set_option autoImplicit false
set_option relaxedAutoImplicit false

namespace Dialogue

namespace Host

/-! ### Steps -/

/-- Whether there is a directory at a place. -/
def isDirectoryAt (host : Host) (place : Location) : Bool :=
  host.tree.isDirectoryAt place

/-- The place to which a piece of a path goes on from a directory. -/
def advance (place : Location) (piece : Text) : Except FileError Location :=
  if piece = [] ∨ piece = ['.'] then .ok place
  else if piece = ['.', '.'] then .ok place.dropLast
  else if nameLimit < Text.Utf8.size piece then .error .nameTooLong
  else .ok (place ++ [piece])

/-- Goes on by one piece of a path from a place, which must be that of a directory. -/
def step (host : Host) (place : Location) (piece : Text) : Except FileError Location :=
  match host.at? place with
  | none => .error .notFound
  | some (.file _ _) => .error .notADirectory
  | some (.directory _) => advance place piece

/-- Goes on by some pieces of a path. -/
def walk (host : Host) (place : Location) (pieces : List Text) : Except FileError Location :=
  pieces.foldlM host.step place

/-- Where a path starts. -/
def originOf (host : Host) (path : Path) : Location :=
  if path.isAbsolute then [] else host.workingDirectory

theorem step_eq_ok_iff {host : Host} {place next : Location} {piece : Text} :
    host.step place piece = .ok next ↔
      host.isDirectoryAt place = true ∧ advance place piece = .ok next := by
  change _ ↔ (host.at? place).any Tree.isDirectory = true ∧ _
  rw [step]
  rcases host.at? place with _ | ⟨content, executable⟩ | entries
  · simp
  · simp [Tree.isDirectory, Tree.isFile]
  · simp [Tree.isDirectory, Tree.isFile]

@[simp]
theorem walk_nil (host : Host) (place : Location) : host.walk place [] = .ok place := rfl

theorem walk_cons (host : Host) (place : Location) (piece : Text) (pieces : List Text) :
    host.walk place (piece :: pieces) =
      (host.step place piece).bind fun next ↦ host.walk next pieces := rfl

theorem walk_append (host : Host) (place : Location) (first second : List Text) :
    host.walk place (first ++ second) =
      (host.walk place first).bind fun next ↦ host.walk next second :=
  List.foldlM_append

/-- A walk by one more piece. -/
theorem walk_concat_eq_ok_iff {host : Host} {place next : Location} {pieces : List Text}
    {piece : Text} :
    host.walk place (pieces ++ [piece]) = .ok next ↔
      ∃ between, host.walk place pieces = .ok between ∧ host.isDirectoryAt between = true ∧
        advance between piece = .ok next := by
  rw [walk_append]
  rcases host.walk place pieces with error | between
  · simp [Except.bind]
  · simp only [Except.bind, walk_cons, Except.ok.injEq, exists_eq_left', ← step_eq_ok_iff]
    rcases host.step between piece with error | reached <;> simp

/-! ### Trails -/

namespace Trail

variable {root : Tree} {trail : Trail}

/-- The place to which a trail leads. -/
def place (trail : Trail) : Location :=
  (trail.map Prod.fst).reverse

/-- A trail holds what is found at the places on its way. -/
def Sound (root : Tree) : Trail → Prop
  | [] => True
  | (name, tree) :: rest =>
    tree = (target rest root).bind (fun directory ↦ directory.entries.lookup name) ∧ Sound root rest

theorem Sound.tail (h : trail.Sound root) : Sound root trail.tail := by
  cases trail with
  | nil => trivial
  | cons entry rest => exact h.2

theorem Sound.enter (h : trail.Sound root) (name : Text) : (trail.enter root name).Sound root :=
  ⟨rfl, h⟩

theorem place_enter (trail : Trail) (name : Text) :
    (trail.enter root name).place = trail.place ++ [name] := by
  simp [place, Trail.enter]

theorem place_tail (trail : Trail) : place trail.tail = trail.place.dropLast := by
  cases trail <;> simp [place]

/-- A trail leads to what is found at its place. -/
theorem Sound.target_eq (h : trail.Sound root) : trail.target root = root.find? trail.place := by
  induction trail with
  | nil => rfl
  | cons entry rest ih =>
    obtain ⟨name, tree⟩ := entry
    have hplace : place ((name, tree) :: rest) = place rest ++ [name] := by simp [place]
    rw [hplace, Tree.find?_concat, ← ih h.2, ← h.1]
    rfl

end Trail

theorem sound_trailTo (host : Host) (place : Location) :
    (host.trailTo place).Sound host.tree ∧ (host.trailTo place).place = place := by
  induction place using List.reverseRecOn with
  | nil => exact ⟨trivial, rfl⟩
  | append_singleton place name ih =>
    have hconcat : host.trailTo (place ++ [name]) = (host.trailTo place).enter host.tree name := by
      rw [trailTo, List.foldl_append]
      rfl
    rw [hconcat]
    exact ⟨ih.1.enter name, by rw [Trail.place_enter, ih.2]⟩

/-- Going on along a trail is going on from its place. -/
theorem follow_eq {host : Host} {trail : Trail} (h : trail.Sound host.tree) (piece : Text) :
    (host.follow trail piece).map Trail.place = host.step trail.place piece ∧
      ∀ after, host.follow trail piece = .ok after → after.Sound host.tree := by
  have htarget : trail.target host.tree = host.at? trail.place := h.target_eq
  rw [follow, step, advance, htarget]
  rcases host.at? trail.place with _ | ⟨content, executable⟩ | entries
  · exact ⟨rfl, fun after hafter ↦ nomatch hafter⟩
  · exact ⟨rfl, fun after hafter ↦ nomatch hafter⟩
  · dsimp only
    split_ifs
    · exact ⟨rfl, fun after hafter ↦ Except.ok.inj hafter ▸ h⟩
    · exact ⟨congrArg Except.ok trail.place_tail, fun after hafter ↦ Except.ok.inj hafter ▸ h.tail⟩
    · exact ⟨rfl, fun after hafter ↦ nomatch hafter⟩
    · exact ⟨congrArg Except.ok (trail.place_enter piece),
        fun after hafter ↦ Except.ok.inj hafter ▸ h.enter piece⟩

/-- Following a path along a trail is walking from its place. -/
theorem foldlM_follow {host : Host} {trail : Trail} (h : trail.Sound host.tree)
    (pieces : List Text) :
    (pieces.foldlM host.follow trail).map Trail.place = host.walk trail.place pieces := by
  induction pieces generalizing trail with
  | nil => rfl
  | cons piece pieces ih =>
    obtain ⟨hstep, hsound⟩ := follow_eq h piece
    rw [List.foldlM_cons, walk_cons, ← hstep]
    rcases hfollow : host.follow trail piece with error | after
    · rfl
    · exact ih (hsound after hfollow)

/-- The place to which a path is resolved. -/
theorem resolve_eq (host : Host) (path : Path) :
    host.resolve path =
      match flawOf? path with
      | some error => .error error
      | none => host.walk (host.originOf path) (Text.splitOn '/' path.text) := by
  rw [resolve]
  cases flawOf? path with
  | some error => rfl
  | none =>
    dsimp only
    change Except.map Trail.place _ = _
    rw [originOf]
    split_ifs
    · have hroot : Trail.Sound host.tree [] := trivial
      exact foldlM_follow hroot _
    · obtain ⟨hsound, hplace⟩ := host.sound_trailTo host.workingDirectory
      rw [foldlM_follow hsound, hplace]

/-! ### Hosts with the same directories -/

/-- What is a directory on one host is one on the other, and relative paths start at the same place.
-/
structure Keeps (host other : Host) : Prop where
  workingDirectory : other.workingDirectory = host.workingDirectory
  isDirectoryAt : ∀ place, host.isDirectoryAt place = true → other.isDirectoryAt place = true

theorem Keeps.originOf {host other : Host} (h : host.Keeps other) (path : Path) :
    other.originOf path = host.originOf path := by
  rw [Host.originOf, Host.originOf, h.workingDirectory]

/-- A walk leads to the same place where all directories are still there. -/
theorem Keeps.walk {host other : Host} (h : host.Keeps other) {place target : Location}
    {pieces : List Text} (hwalk : host.walk place pieces = .ok target) :
    other.walk place pieces = .ok target := by
  induction pieces generalizing place with
  | nil => exact hwalk
  | cons piece pieces ih =>
    rw [walk_cons] at hwalk ⊢
    rcases hstep : host.step place piece with error | next
    · rw [hstep] at hwalk
      contradiction
    · rw [hstep] at hwalk
      obtain ⟨hdirectory, hnext⟩ := step_eq_ok_iff.mp hstep
      rw [step_eq_ok_iff.mpr ⟨h.isDirectoryAt place hdirectory, hnext⟩]
      exact ih hwalk

/-- What is put in where there is no directory leaves all directories. -/
theorem keeps_put {host : Host} {place : Location} (h : host.isDirectoryAt place = false)
    (new : Tree) : host.Keeps (host.put place new) where
  workingDirectory := rfl
  isDirectoryAt _ hdirectory := Tree.isDirectoryAt_put new h hdirectory

end Host

end Dialogue
