import Dialogue.Text.Basic

/-!
# Paths

A path is the text that someone wrote; what it means is the sequence of its components. Doubled
separators, separators at the end and dots behind the first component carry no meaning, so different
texts may have the same components. Paths are ordered by their components, not by their texts, so
that what lies below a directory stays together.
-/

set_option autoImplicit false
set_option relaxedAutoImplicit false

namespace Dialogue

/-- A path as it is written. -/
structure Path where
  text : Text
  deriving Repr, DecidableEq, Inhabited

/-- A part of a path. -/
inductive Component where
  /-- The root, in front of an absolute path. -/
  | root
  /-- The directory itself, in front of a relative path. -/
  | current
  /-- The directory above. -/
  | parent
  /-- An entry of a directory. -/
  | name (name : Text)
  deriving Repr, DecidableEq, Inhabited

namespace Component

/-- The place of a kind of component in the order. -/
def rank : Component → Nat
  | root => 0
  | current => 1
  | parent => 2
  | name _ => 3

/-- Whether a component comes before another one: by kind, and among names by their characters. -/
def before : Component → Component → Bool
  | name a, name b => decide (a < b)
  | a, b => a.rank < b.rank

/-- Whether a list of components does not come after another one. -/
def listLe : List Component → List Component → Bool
  | [], _ => true
  | _ :: _, [] => false
  | a :: as, b :: bs => if a = b then listLe as bs else a.before b

end Component

namespace Path

/-- The path that a text writes. -/
def ofString (text : String) : Path := ⟨text.toList⟩

/-- Whether a path starts at the root. -/
def isAbsolute (path : Path) : Bool :=
  path.text.head? == some '/'

/-! ### Components -/

/-- The component that a piece between separators stands for, if it stands for any. Only in front of
a relative path does a dot. -/
def componentOf? (leading : Bool) (piece : Text) : Option Component :=
  if piece = [] then none
  else if piece = ['.'] then (if leading then some .current else none)
  else if piece = ['.', '.'] then some .parent
  else some (.name piece)

/-- The components of pieces, the first of which begins at an offset, each with the offset of its
end. -/
def locate (leading : Bool) (offset : Nat) : List Text → List (Component × Nat)
  | [] => []
  | piece :: rest =>
    let others := locate false (offset + piece.length + 1) rest
    match componentOf? leading piece with
    | some component => (component, offset + piece.length) :: others
    | none => others

/-- The components of a path, each with the offset of its end in the text. -/
def located (path : Path) : List (Component × Nat) :=
  if path.isAbsolute then (.root, 1) :: locate false 0 (Text.splitOn '/' path.text)
  else locate true 0 (Text.splitOn '/' path.text)

/-- The components of a path. -/
def components (path : Path) : List Component :=
  path.located.map Prod.fst

/-- Whether a path does not come after another one. -/
def le (a b : Path) : Bool :=
  Component.listLe a.components b.components

/-- The directory part of a path: the path without its last component. The root and the empty path
have none. -/
def parent? (path : Path) : Option Path :=
  match path.located.reverse with
  | [] => none
  | [(.root, _)] => none
  | [_] => some ⟨[]⟩
  | _ :: (_, stop) :: _ => some ⟨path.text.take stop⟩

/-- The directory part of a path; that of the root and of the empty path is the directory itself. -/
def parentOrCurrent (path : Path) : Path :=
  path.parent?.getD ⟨['.']⟩

/-- The components of a path behind those of a directory, or all of them if the path does not lead
through the directory. -/
def componentsBelow (directory path : Path) : List Component :=
  (directory.components.isPrefixOf? path.components).getD path.components

/-- The last component of a path, if it is a name. -/
def fileName? (path : Path) : Option Text :=
  match path.components.getLast? with
  | some (.name name) => some name
  | _ => none

/-- What a path is called: its last name, or its text if it has none. -/
def displayName (path : Path) : Text :=
  path.fileName?.getD path.text

/-- A name without its extension, which begins at the last dot unless that is the first
character. -/
def stemOf (name : Text) : Text :=
  match name.reverse.dropWhile (· != '.') with
  | [] => name
  | _ :: stem => if stem = [] then name else stem.reverse

/-- The last name of a path without its extension. -/
def stem? (path : Path) : Option Text :=
  path.fileName?.map stemOf

/-! ### Joining -/

/-- A path seen from a directory. An absolute path stays what it is. -/
def join (directory path : Path) : Path :=
  if path.isAbsolute then path
  else if directory.text = [] ∨ directory.text.getLast? = some '/' then
    ⟨directory.text ++ path.text⟩
  else ⟨directory.text ++ '/' :: path.text⟩

/-- The path of an entry of a directory. -/
def child (directory : Path) (name : Text) : Path :=
  directory.join ⟨name⟩

end Path

end Dialogue
