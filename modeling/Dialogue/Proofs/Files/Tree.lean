import Dialogue.Files.Tree
import Mathlib.Data.List.Basic

/-!
# What a change leaves as it is

A file that is put into a tree changes the tree at its place only: what stands beside it is found as
before (`find?_put_beside`), and where there was a directory there still is one, unless the file
takes its place (`isDirectoryAt_put`).
-/

set_option autoImplicit false
set_option relaxedAutoImplicit false

namespace Dialogue.Tree

/-- Whether there is a directory at a place. -/
def isDirectoryAt (tree : Tree) (place : Location) : Bool :=
  (tree.find? place).any isDirectory

/-! ### Places below others -/

theorem find?_cons (tree : Tree) (name : Text) (place : Location) :
    tree.find? (name :: place) = (tree.entries.lookup name).bind fun child ↦ child.find? place := by
  rw [find?]
  cases tree.entries.lookup name <;> rfl

theorem find?_append (tree : Tree) (place below : Location) :
    tree.find? (place ++ below) = (tree.find? place).bind fun child ↦ child.find? below := by
  induction place generalizing tree with
  | nil => rfl
  | cons name place ih =>
    rw [List.cons_append, find?_cons, find?_cons, Option.bind_assoc]
    simp only [ih]

/-- What a directory has under a name is found at the place of that name. -/
theorem find?_concat (tree : Tree) (place : Location) (name : Text) :
    tree.find? (place ++ [name]) =
      (tree.find? place).bind fun directory ↦ directory.entries.lookup name := by
  rw [find?_append]
  refine congrArg _ (funext fun directory ↦ ?_)
  rw [find?_cons]
  cases directory.entries.lookup name <;> rfl

theorem entries_eq_nil {tree : Tree} (h : tree.isDirectory = false) : tree.entries = [] := by
  cases tree with
  | file content executable => rfl
  | directory entries => contradiction

/-! ### Putting something in -/

theorem entries_put (new tree : Tree) (name : Text) (place : Location) :
    (put new tree (name :: place)).entries =
      setEntry name (put new ((tree.entries.lookup name).getD empty) place) tree.entries := rfl

/-- What stands beside what is put in is found as before. -/
theorem find?_put_beside (new tree : Tree) (place : Location) {name other : Text}
    (hne : other ≠ name) :
    (put new tree (place ++ [name])).find? (place ++ [other]) =
      tree.find? (place ++ [other]) := by
  induction place generalizing tree with
  | nil => rw [List.nil_append, List.nil_append, find?_cons, find?_cons, entries_put,
      lookup_setEntry_of_ne hne]
  | cons step place ih =>
    rw [List.cons_append, List.cons_append, find?_cons, find?_cons, entries_put,
      lookup_setEntry_self, Option.bind_some, ih]
    cases tree.entries.lookup step with
    | some child => rfl
    | none =>
      -- There is nothing in the directory that is made on the way.
      rw [Option.getD_none, Option.bind_none, find?_concat]
      cases place <;> rfl

/-- A directory stays a directory when something is put in where there is none. -/
theorem isDirectoryAt_put (new : Tree) {tree : Tree} {place directory : Location}
    (hplace : tree.isDirectoryAt place = false) (h : tree.isDirectoryAt directory = true) :
    (put new tree place).isDirectoryAt directory = true := by
  unfold isDirectoryAt at hplace h ⊢
  induction place generalizing tree directory with
  | nil =>
    have hfile : tree.isDirectory = false := hplace
    cases directory with
    | nil => exact absurd (hfile.symm.trans h) (by decide)
    | cons name directory =>
      rw [find?_cons, entries_eq_nil hfile] at h
      contradiction
  | cons name place ih =>
    cases directory with
    | nil => rfl
    | cons other directory =>
      rw [find?_cons] at h ⊢
      by_cases hother : other = name
      · subst hother
        rw [entries_put, lookup_setEntry_self, Option.bind_some]
        cases hchild : tree.entries.lookup other with
        | none =>
          rw [hchild] at h
          contradiction
        | some child =>
          rw [hchild] at h
          rw [find?_cons, hchild] at hplace
          exact ih hplace h
      · rwa [entries_put, lookup_setEntry_of_ne hother]

end Dialogue.Tree
