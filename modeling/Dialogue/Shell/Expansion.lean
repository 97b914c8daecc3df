import Dialogue.Shell.Arithmetic
import Dialogue.Shell.Fields
import Dialogue.Shell.State
import Dialogue.Shell.Token

/-!
# Expansion

Words are expanded part by part: a parameter gives way to its value, an expression to its result,
and a command to its output. The word of a change is only expanded if it is needed, so an expansion
keeps a stack of the words that it is in the middle of (`Frame`). A command has to be run by someone
else: the expansion stops there and is resumed with the output (`Expansion.resume`).
-/

set_option autoImplicit false
set_option relaxedAutoImplicit false

namespace Dialogue.Shell

/-! ### Values -/

/-- A piece for a value. -/
def valuePiece (quoted : Bool) (value : Text) : Piece :=
  if quoted then .quoted value else .split value

/-- Whether a parameter stands for all arguments. -/
def standsForAll (name : Text) : Bool :=
  name == ['@'] || name == ['*']

/-- The pieces for the value of a parameter. -/
def valuePieces (state : State) (name : Text) (quoted : Bool) : List Piece :=
  if standsForAll name && !(quoted && name == ['*']) then
    ((state.arguments.map fun a ↦ [valuePiece quoted a]).intersperse [.boundary]).flatten
  else [valuePiece quoted ((state.parameter? name).getD [])]

/-- The home that a name stands for: that of the shell's user, of one that is known, or none. -/
def homePieces (state : State) (user : Text) : List Piece :=
  let home := if user.isEmpty then state.value? "HOME".toList
    else if user = "root".toList then some "/root".toList
    else none
  match home with
  | some [] => []
  | some path => [.quoted path]
  | none => [.quoted ('~' :: user)]

/-- The complaint about a parameter that has no value. -/
def unsetComplaint (name : Text) : Text :=
  name ++ ": parameter not set".toList

/-- Whether a parameter must have a value and has none. -/
def isMissed (state : State) (name : Text) : Bool :=
  state.has 'u' && (state.parameter? name).isNone

/-- A piece of a word that stands in place of a value. What is not quoted can be split. -/
def asValue : Piece → Piece
  | .literal text => .split text
  | piece => piece

/-- The pieces of a value from which something is cut off. -/
def cutPieces (state : State) (name : Text) (quoted : Bool) (change : Change)
    (pattern : List Mark) : List Piece :=
  let cut (text : Text) : Text :=
    match change with
    | .dropStart longest => withoutStart longest pattern text
    | .dropEnd longest => withoutEnd longest pattern text
    | _ => text
  let cutPiece : Piece → Piece
    | .quoted text => .quoted (cut text)
    | .split text => .split (cut text)
    | piece => piece
  let pieces := valuePieces state name quoted
  match change with
  | .dropEnd _ => (match pieces.reverse with
    | last :: others => cutPiece last :: others
    | [] => []).reverse
  | _ => match pieces with
    | first :: others => cutPiece first :: others
    | [] => []

/-! ### Expansions -/

/-- What an expanded word is for. -/
inductive Purpose where
  /-- It is one of the words that were to be expanded. -/
  | word
  /-- It stands in place of a value. -/
  | value
  /-- It is assigned to a variable, and stands in place of its value. -/
  | assign (name : Text) (quoted : Bool)
  /-- It is a pattern for what is cut off. -/
  | cut (name : Text) (change : Change) (quoted : Bool)
  | arithmetic (quoted : Bool)
  /-- It says why a parameter is missed. -/
  | complaint (name : Text) (emptyToo : Bool)
  deriving Repr, DecidableEq, Inhabited

/-- A word that is being expanded. -/
structure Frame where
  rest : Word
  /-- The pieces so far, the last one first. -/
  pieces : List Piece
  purpose : Purpose
  deriving Inhabited

/-- An expansion of some words. -/
structure Expansion where
  words : List Word
  /-- The pieces of the words that are done, the last one first. -/
  results : List (List Piece)
  /-- The words that are being expanded, the innermost first. -/
  frames : List Frame
  deriving Inhabited

/-- What comes of an expansion. -/
inductive Expanded where
  /-- It is not done yet. -/
  | goesOn (expansion : Expansion) (state : State)
  /-- All words are expanded. -/
  | finished (results : List (List Piece)) (state : State)
  /-- A command has to be run. -/
  | needs (command : Command) (quoted : Bool) (expansion : Expansion) (state : State)
  | fails (complaint : Text)
  /-- A quotient is too large. -/
  | overflows
  deriving Inhabited

namespace Expansion

/-- The expansion of some words. -/
def start (words : List Word) : Expansion := ⟨words, [], []⟩

/-- The pieces of the parts at the start of a word that need nothing but the state, behind other
pieces, the last one first; and the rest of the word. -/
def takePlain (state : State) (pieces : List Piece) : Word → List Piece × Word
  | [] => (pieces, [])
  | part :: rest =>
    match part with
    | .literal text => takePlain state (.literal text :: pieces) rest
    | .quoted text => takePlain state (.quoted text :: pieces) rest
    | .home user => takePlain state ((homePieces state user).reverse ++ pieces) rest
    | .parameter name quoted =>
      if isMissed state name then (pieces, part :: rest)
      else takePlain state ((valuePieces state name quoted).reverse ++ pieces) rest
    | .size name quoted =>
      if isMissed state name then (pieces, part :: rest)
      else
        let size := ((state.parameter? name).getD []).length
        takePlain state (valuePiece quoted (Text.ofNat size) :: pieces) rest
    | _ => (pieces, part :: rest)

/-- Expands words up to the first one that needs more than the state. -/
def takeWords (state : State) (results : List (List Piece)) : List Word → Expansion
  | [] => ⟨[], results, []⟩
  | word :: words =>
    match takePlain state [] word with
    | (pieces, []) => takeWords state (pieces.reverse :: results) words
    | (pieces, rest) => ⟨words, results, [⟨rest, pieces, .word⟩]⟩

/-- The expansion with some more pieces of the innermost word. -/
def add (expansion : Expansion) (pieces : List Piece) : Expansion :=
  match expansion.frames with
  | frame :: outer =>
    { expansion with frames := { frame with pieces := pieces.reverse ++ frame.pieces } :: outer }
  | [] => expansion

/-- The expansion with a word begun within the innermost one. -/
def enter (expansion : Expansion) (word : Word) (purpose : Purpose) : Expansion :=
  { expansion with frames := ⟨word, [], purpose⟩ :: expansion.frames }

/-- Goes on with the output of a command. -/
def resume (expansion : Expansion) (quoted : Bool) (output : Text) : Expansion :=
  expansion.add [valuePiece quoted output]

/-- Sets a variable, unless it is fixed or a parameter of another kind. -/
def assign (state : State) (name value : Text) (expansion : Expansion) : Expanded :=
  if !isName name then .fails (name ++ ": bad variable name".toList)
  else if state.isFixed name then .fails (name ++ ": is read only".toList)
  else .goesOn expansion (state.set name value)

/-- Puts the result of the innermost word, which is done, to its purpose. -/
def finish (state : State) (pieces : List Piece) (purpose : Purpose) (expansion : Expansion) :
    Expanded :=
  match purpose with
  | .word => .goesOn { expansion with results := pieces :: expansion.results } state
  | .value => .goesOn (expansion.add (pieces.map asValue)) state
  | .assign name quoted =>
    let value := wordText pieces
    assign state name value (expansion.add [valuePiece quoted value])
  | .cut name change quoted =>
    .goesOn (expansion.add (cutPieces state name quoted change (wordPattern pieces))) state
  | .arithmetic quoted =>
    match Arithmetic.evaluate ⟨state.parameter?, state.isFixed, wordText pieces⟩ with
    | .ok (n, changes) =>
      let state := changes.reverse.foldl (fun s (name, value) ↦
        s.set name (Arithmetic.shown value)) state
      .goesOn (expansion.add [valuePiece quoted (Arithmetic.shown n)]) state
    | .error (.complaint text) => .fails text
    | .error .overflow => .overflows
  | .complaint name emptyToo =>
    let text := wordText pieces
    if text.isEmpty then
      .fails (if emptyToo then unsetComplaint name ++ " or null".toList else unsetComplaint name)
    else .fails (name ++ ": ".toList ++ text)

/-- Expands a part that needs more than the state. -/
def expandPart (state : State) (part : Part) (expansion : Expansion) : Expanded :=
  match part with
  | .parameter name _ | .size name _ => .fails (unsetComplaint name)
  | .output command quoted => .needs command quoted expansion state
  | .arithmetic expression quoted => .goesOn (expansion.enter expression (.arithmetic quoted)) state
  | .changed name change emptyToo word quoted =>
    let value := state.parameter? name
    let missing := value.isNone || (emptyToo && value == some [])
    let same : Expanded := .goesOn (expansion.add (valuePieces state name quoted)) state
    match change with
    | .default => if missing then .goesOn (expansion.enter word .value) state else same
    | .alternative => .goesOn (if missing then expansion else expansion.enter word .value) state
    | .assign =>
      if missing then .goesOn (expansion.enter word (.assign name quoted)) state else same
    | .demand =>
      if missing then .goesOn (expansion.enter word (.complaint name emptyToo)) state else same
    | .dropStart _ | .dropEnd _ =>
      if isMissed state name then .fails (unsetComplaint name)
      else .goesOn (expansion.enter word (.cut name change quoted)) state
  | _ => .fails "Bad substitution".toList

/-- Goes on with an expansion. -/
def advance (state : State) (expansion : Expansion) : Expanded :=
  match expansion.frames with
  | [] =>
    match expansion.words with
    | [] => .finished expansion.results.reverse state
    | words =>
      let next := takeWords state expansion.results words
      if next.frames.isEmpty then .finished next.results.reverse state else .goesOn next state
  | frame :: outer =>
    match takePlain state frame.pieces frame.rest with
    | (pieces, []) =>
      finish state pieces.reverse frame.purpose { expansion with frames := outer }
    | (pieces, part :: rest) =>
      expandPart state part
        { expansion with frames := { frame with pieces := pieces, rest := rest } :: outer }

end Expansion

end Dialogue.Shell
