import Dialogue.Files.Tree

/-!
# Changes of trees

What has to be written so that one tree becomes another one, as a list of places with what is to be
there. A directory is listed before what it holds, and what is the same in both trees is not listed.
-/

set_option autoImplicit false
set_option relaxedAutoImplicit false

namespace Dialogue.Tree

/-- Whether there already is what is to be there, apart from the entries of a directory. -/
def agrees : Tree → Option Tree → Bool
  | .file content executable, some (.file other marked) =>
    content == other && executable == marked
  | .directory _, some (.directory _) => true
  | _, _ => false

mutual

/-- The changes that lead from what is at a place, if there is anything, to a tree. -/
def changes (place : Location) (old : Option Tree) : Tree → List (Location × Tree)
  | .file content executable =>
    let new : Tree := .file content executable
    if new.agrees old then [] else [(place, new)]
  | .directory entries =>
    let before := if (directory entries).agrees old then [] else [(place, empty)]
    before ++ changesIn place ((old.map Tree.entries).getD []) entries

/-- The changes of some entries of a directory. -/
def changesIn (place : Location) (old : List (Text × Tree)) :
    List (Text × Tree) → List (Location × Tree)
  | [] => []
  | (name, tree) :: rest =>
    changes (place ++ [name]) (old.lookup name) tree ++ changesIn place old rest

end

end Dialogue.Tree
