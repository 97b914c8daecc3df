import Dialogue.Proofs.Files.Entry

/-!
# Components of paths

Paths are compared by their components, which is a total order on lists of components
(`Component.listLe_total`, `listLe_trans`, `listLe_antisymm`), so a list of paths with different
components is sorted in one way only (`Path.eq_of_increasing`).

The path of what is at a place below a directory has the components of the directory, followed by
the names that lead to the place (`Path.components_descend`). So the names below the directory can
be read off the path again, however the directory is written.
-/

set_option autoImplicit false
set_option relaxedAutoImplicit false

namespace Dialogue

open Text (splitOn)

/-! ### The order of components -/

namespace Component

variable {a b c : Component}

theorem before_irrefl (a : Component) : a.before a = false := by
  cases a with
  | name name => exact decide_eq_false (List.lt_irrefl name)
  | root | current | parent => rfl

theorem before_trans (hab : a.before b = true) (hbc : b.before c = true) :
    a.before c = true := by
  cases a <;> cases b <;> cases c
  case name.name.name a b c =>
    exact decide_eq_true (List.lt_trans (of_decide_eq_true hab) (of_decide_eq_true hbc))
  all_goals first | rfl | contradiction

theorem before_of_ne (h : a ≠ b) : a.before b = true ∨ b.before a = true := by
  cases a <;> cases b
  case name.name a b =>
    by_cases hab : a < b
    · exact .inl (decide_eq_true hab)
    by_cases hba : b < a
    · exact .inr (decide_eq_true hba)
    exact absurd (congrArg name (List.le_antisymm hba hab)) h
  all_goals first | exact .inl rfl | exact .inr rfl | exact absurd rfl h

theorem before_asymm (h : a.before b = true) : b.before a = false := by
  refine Bool.eq_false_iff.mpr fun hba ↦ ?_
  exact Bool.eq_false_iff.mp (before_irrefl a) (before_trans h hba)

theorem listLe_cons (a b : Component) (as bs : List Component) :
    listLe (a :: as) (b :: bs) = if a = b then listLe as bs else a.before b := rfl

theorem listLe_total (as bs : List Component) : (listLe as bs || listLe bs as) = true := by
  induction as generalizing bs with
  | nil => simp [listLe]
  | cons a as ih =>
    cases bs with
    | nil => rfl
    | cons b bs =>
      rw [listLe_cons, listLe_cons]
      by_cases hab : a = b
      · rw [if_pos hab, if_pos hab.symm]
        exact ih bs
      · rw [if_neg hab, if_neg (Ne.symm hab), Bool.or_eq_true]
        exact before_of_ne hab

theorem listLe_trans (as bs cs : List Component) (hab : listLe as bs = true)
    (hbc : listLe bs cs = true) : listLe as cs = true := by
  induction bs generalizing as cs with
  | nil =>
    cases as with
    | nil => rfl
    | cons a as => contradiction
  | cons b bs ih =>
    rcases as with _ | ⟨a, as⟩
    · rfl
    rcases cs with _ | ⟨c, cs⟩
    · contradiction
    rw [listLe_cons] at hab hbc ⊢
    -- The first components differ at most where one of the two comparisons says so.
    split_ifs at hab hbc with hfirst hsecond hsecond
    · subst hfirst hsecond
      rw [if_pos rfl]
      exact ih as cs hab hbc
    · subst hfirst
      rwa [if_neg hsecond]
    · subst hsecond
      rwa [if_neg hfirst]
    · have hac := before_trans hab hbc
      rwa [if_neg fun heq : a = c ↦ Bool.eq_false_iff.mp (before_irrefl c) (heq ▸ hac)]

theorem listLe_antisymm {as bs : List Component} (hab : listLe as bs = true)
    (hba : listLe bs as = true) : as = bs := by
  induction as generalizing bs with
  | nil =>
    cases bs with
    | nil => rfl
    | cons b bs => contradiction
  | cons a as ih =>
    cases bs with
    | nil => contradiction
    | cons b bs =>
      rw [listLe_cons] at hab hba
      by_cases heq : a = b
      · rw [if_pos heq] at hab
        rw [if_pos heq.symm] at hba
        rw [heq, ih hab hba]
      · rw [if_neg heq] at hab
        rw [if_neg (Ne.symm heq), before_asymm hab] at hba
        contradiction

end Component

namespace Path

/-- Whether a path comes before another one. -/
def Precedes (a b : Path) : Prop :=
  a.le b = true ∧ a.components ≠ b.components

theorem le_total (a b : Path) : (a.le b || b.le a) = true :=
  Component.listLe_total a.components b.components

theorem le_trans {a b c : Path} (hab : a.le b = true) (hbc : b.le c = true) : a.le c = true :=
  Component.listLe_trans _ _ _ hab hbc

theorem components_eq_of_le {a b : Path} (hab : a.le b = true) (hba : b.le a = true) :
    a.components = b.components :=
  Component.listLe_antisymm hab hba

theorem Precedes.ne {a b : Path} (h : a.Precedes b) : a ≠ b :=
  fun heq ↦ h.2 (congrArg components heq)

/-- Paths in order are determined by which ones they are. -/
theorem eq_of_increasing {first second : List Path} (hfirst : first.Pairwise Precedes)
    (hsecond : second.Pairwise Precedes) (h : ∀ path, path ∈ first ↔ path ∈ second) :
    first = second := by
  have hperm : first.Perm second :=
    (List.perm_ext_iff_of_nodup (hfirst.imp Precedes.ne) (hsecond.imp Precedes.ne)).mpr h
  refine hperm.eq_of_pairwise (fun a b _ _ hab hba ↦ ?_) hfirst hsecond
  exact absurd (components_eq_of_le hab.1 hba.1) hab.2

/-- Sorted paths are in order if they all have different components. -/
theorem pairwise_mergeSort_precedes {paths : List Path} (h : (paths.map components).Nodup) :
    (paths.mergeSort le).Pairwise Precedes := by
  have hsorted : (paths.mergeSort le).Pairwise fun a b ↦ a.le b = true := by
    refine List.pairwise_mergeSort ?_ le_total paths
    exact fun a b c ↦ le_trans
  have hdistinct : (paths.mergeSort le).Pairwise fun a b ↦ a.components ≠ b.components := by
    rw [← List.pairwise_map]
    exact (((List.mergeSort_perm paths le).map components).nodup_iff).mpr h
  exact hsorted.and hdistinct

/-! ### Components of what is in a directory -/

/-- One more piece adds the component that it stands for. -/
theorem locate_concat (leading : Bool) (offset : Nat) (pieces : List Text) (piece : Text) :
    (locate leading offset (pieces ++ [piece])).map Prod.fst =
      (locate leading offset pieces).map Prod.fst ++
        (componentOf? (leading && pieces.isEmpty) piece).toList := by
  induction pieces generalizing leading offset with
  | nil =>
    rw [List.nil_append, locate, locate, List.isEmpty_nil, Bool.and_true]
    rcases componentOf? leading piece with _ | component <;> rfl
  | cons first pieces ih =>
    rw [List.cons_append, locate, locate, List.isEmpty_cons, Bool.and_false]
    have hlater := ih false (offset + first.length + 1)
    rw [Bool.false_and] at hlater
    rcases componentOf? leading first with _ | component
    · exact hlater
    · exact congrArg (component :: ·) hlater

theorem components_eq (path : Path) :
    path.components =
      if path.isAbsolute then
        .root :: (locate false 0 (splitOn '/' path.text)).map Prod.fst
      else (locate true 0 (splitOn '/' path.text)).map Prod.fst := by
  rw [components, located]
  split_ifs <;> rfl

/-- A separator at the end of a path adds no component. -/
theorem locate_way (leading : Bool) (offset : Nat) (directory : Path) :
    (locate leading offset directory.way).map Prod.fst =
      (locate leading offset (splitOn '/' directory.text)).map Prod.fst := by
  rw [way]
  split_ifs with hempty hlast
  · rw [hempty]
    rfl
  · obtain ⟨above, habove⟩ := List.getLast?_eq_some_iff.mp hlast
    rw [habove, List.dropLast_concat, Text.splitOn_append_cons]
    exact ((locate_concat leading offset _ _).trans (List.append_nil _)).symm
  · rfl

variable {directory : Path} {name : Text} {place other : Location}

/-- An entry adds its name. -/
theorem components_child (hname : name.IsEntryName) :
    (directory.child name).components = directory.components ++ [.name name] := by
  have hcomponent (leading : Bool) : componentOf? leading name = some (.name name) := by
    rw [componentOf?, if_neg hname.ne_nil, if_neg hname.ne_current, if_neg hname.ne_parent]
  rw [components_eq, components_eq, isAbsolute_child hname.separator_notMem,
    splitOn_child hname.separator_notMem, locate_concat, locate_concat, locate_way, locate_way,
    hcomponent, hcomponent]
  split_ifs <;> rfl

/-- The path of what is at a place below a directory. -/
def descend (directory : Path) (place : Location) : Path :=
  place.foldl child directory

@[simp]
theorem descend_nil (directory : Path) : directory.descend [] = directory := rfl

@[simp]
theorem descend_cons (directory : Path) (name : Text) (place : Location) :
    directory.descend (name :: place) = (directory.child name).descend place := rfl

/-- The names that lead to a place follow the components of the directory. -/
theorem components_descend (h : ∀ name ∈ place, name.IsEntryName) :
    (directory.descend place).components = directory.components ++ place.map .name := by
  induction place generalizing directory with
  | nil => exact (List.append_nil _).symm
  | cons name place ih =>
    obtain ⟨hname, hplace⟩ := List.forall_mem_cons.mp h
    rw [descend_cons, ih hplace, components_child hname, List.append_assoc, List.map_cons,
      List.singleton_append]

/-- Different places have different components. -/
theorem eq_of_components_descend (hplace : ∀ name ∈ place, name.IsEntryName)
    (hother : ∀ name ∈ other, name.IsEntryName)
    (h : (directory.descend place).components = (directory.descend other).components) :
    place = other := by
  rw [components_descend hplace, components_descend hother] at h
  exact List.map_injective_iff.mpr (fun _ _ ↦ Component.name.inj) (List.append_cancel_left h)

/-- What is behind the directory in the path of a place are the names that lead to the place. -/
theorem componentsBelow_descend (h : ∀ name ∈ place, name.IsEntryName) :
    directory.componentsBelow (directory.descend place) = place.map .name := by
  rw [componentsBelow, components_descend h, List.isPrefixOf?_eq_some_iff_append_eq.mpr rfl]
  rfl

/-- What is at a place is called by the last name that leads there. -/
theorem fileName?_descend (h : ∀ name ∈ place, name.IsEntryName) (hne : place ≠ []) :
    (directory.descend place).fileName? = place.getLast? := by
  rw [fileName?, components_descend h, List.getLast?_append_of_ne_nil _ (by simpa using hne),
    List.getLast?_map]
  rcases place.getLast? with _ | name <;> rfl

end Path

end Dialogue
