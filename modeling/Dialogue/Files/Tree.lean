import Dialogue.Text.Basic

/-!
# Trees of files

A tree of files is a file with its bytes, or a directory with named entries. A place in a tree is
the list of the names that lead to it. `find?` looks a place up and `put` fills it; what is put at
a place is found there, as long as the place's directory is there.
-/

set_option autoImplicit false
set_option relaxedAutoImplicit false

namespace Dialogue

/-- A file or a directory. -/
inductive Tree where
  | file (content : List UInt8) (executable : Bool)
  | directory (entries : List (Text × Tree))
  deriving Repr, Inhabited

/-- A place in a tree: the names that lead to it. -/
abbrev Location := List Text

namespace Tree

/-- A directory without entries. -/
def empty : Tree := .directory []

/-- Whether there is a file. -/
def isFile : Tree → Bool
  | file _ _ => true
  | directory _ => false

/-- Whether there is a directory. -/
def isDirectory (tree : Tree) : Bool :=
  !tree.isFile

/-- The entries of a directory; a file has none. -/
def entries : Tree → List (Text × Tree)
  | file _ _ => []
  | directory entries => entries

/-- What is at a place. -/
def find? (tree : Tree) : Location → Option Tree
  | [] => some tree
  | name :: rest =>
    match tree.entries.lookup name with
    | some child => child.find? rest
    | none => none

/-- A list of entries with one of them set: replaced if there is one of that name, and added
otherwise. -/
def setEntry (name : Text) (tree : Tree) : List (Text × Tree) → List (Text × Tree)
  | [] => [(name, tree)]
  | (other, child) :: rest =>
    if name = other then (name, tree) :: rest else (other, child) :: setEntry name tree rest

/-- The tree with something put at a place. Directories that are missing on the way are made, and a
file on the way gives way to a directory. -/
def put (new : Tree) (tree : Tree) : Location → Tree
  | [] => new
  | name :: rest =>
    let child := (tree.entries.lookup name).getD empty
    directory (setEntry name (put new child rest) tree.entries)

/-- The tree without what is at a place. -/
def remove (tree : Tree) : Location → Tree
  | [] => empty
  | [name] => directory (tree.entries.filter fun (other, _) ↦ other ≠ name)
  | name :: rest =>
    match tree.entries.lookup name with
    | some child => directory (setEntry name (child.remove rest) tree.entries)
    | none => tree

/-! ### What is put is found -/

theorem lookup_setEntry_self (name : Text) (tree : Tree) (entries : List (Text × Tree)) :
    (setEntry name tree entries).lookup name = some tree := by
  induction entries with
  | nil => simp [setEntry]
  | cons entry rest ih =>
    obtain ⟨other, child⟩ := entry
    simp only [setEntry]
    split
    · simp
    · next h => simp [List.lookup_cons, beq_eq_false_iff_ne.mpr h, ih]

theorem lookup_setEntry_of_ne {name other : Text} (h : other ≠ name) (tree : Tree)
    (entries : List (Text × Tree)) :
    (setEntry name tree entries).lookup other = entries.lookup other := by
  induction entries with
  | nil => simp [setEntry, List.lookup_cons, beq_eq_false_iff_ne.mpr h]
  | cons entry rest ih =>
    obtain ⟨third, child⟩ := entry
    simp only [setEntry]
    split
    · next heq =>
      subst heq
      simp [List.lookup_cons, beq_eq_false_iff_ne.mpr h]
    · simp [List.lookup_cons, ih]

theorem find?_put_self (new tree : Tree) (place : Location) :
    (put new tree place).find? place = some new := by
  induction place generalizing tree with
  | nil => rfl
  | cons name rest ih => simp [put, find?, entries, lookup_setEntry_self, ih]

end Tree

end Dialogue
