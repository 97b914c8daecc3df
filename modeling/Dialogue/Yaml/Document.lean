import Dialogue.Text.Bytes
import Dialogue.Yaml.Event
import Dialogue.Yaml.Scalar

/-!
# Documents as values

The events of a document make up one value. A reference stands for the node that was named, which is
read once more wherever a reference to it stands; how often that may happen depends on the number of
events, and how deep collections may be nested is limited as well.
-/

set_option autoImplicit false
set_option relaxedAutoImplicit false

namespace Dialogue.Yaml

/-! ### Errors -/

/-- What is wrong with a text that should hold one document. -/
inductive DocumentError where
  /-- It is not well written, or says something that is no value. -/
  | malformed
  /-- Its references stand for too much. -/
  | repetitive
  /-- It holds more than one document. -/
  | several
  deriving Repr, DecidableEq, Inhabited

/-- The wording of an error. What is wrong with the writing is not said. -/
def DocumentError.message? : DocumentError → Option Text
  | malformed => none
  | repetitive => some "repetition limit exceeded".toList
  | several =>
    some "deserializing from YAML containing more than one document is not supported".toList

/-! ### Tags -/

/-- Whether a tag begins with its mark. -/
def isMarked (tag : Option Text) : Bool :=
  tag.any fun name ↦ name.head? == some '!'

/-- The name in a local tag, which is what stands behind its mark, if its bytes make up a text. A
mark at the start of the name makes no difference. -/
def localTag? (tag : Option Text) : Option Text :=
  (match tag with
    | some ('!' :: '!' :: c :: name) => some (c :: name)
    | some ('!' :: c :: name) => some (c :: name)
    | some ['!'] => some ['!']
    | _ => none).bind fun name ↦ Text.Utf8.decode? (Text.toBytes name)

/-- A value under a tag, if the tag is a local one. -/
def Value.under (tag : Option Text) (value : Value) : Value :=
  match localTag? tag with
  | some name => .tagged name value
  | none => value

/-- What a scalar without a tag stands for. -/
def ofScalar? (content : Text) (plain : Bool) : Option Value :=
  if plain then resolve? content else some (.text content)

/-- What a scalar stands for. Under a tag of YAML it must be of that kind, and under one that begins
with a mark it stands for what it would without it. -/
def ofTagged? (tag : Option Text) (content : Text) (plain : Bool) : Option Value :=
  match tag with
  | none => ofScalar? content plain
  | some name =>
    if name = coreTag "bool" then (boolean? content).map .boolean
    else if name = coreTag "int" then ((integer? content).filter fitsWord).map .integer
    else if name = coreTag "float" then (fraction? content).map .fraction
    else if name = coreTag "null" then
      if isNull content && !content.isEmpty then some .null else none
    else if isMarked tag then (ofScalar? content plain).map (·.under tag)
    else some (.text content)

/-! ### Nodes -/

/-- How deep collections may be nested. -/
def depthLimit : Nat := 128

/-- How many references may be followed for each event. -/
def repetitionLimit : Nat := 100

/-- How much of a document was read. -/
structure Place.Progress where
  /-- The place of the next event. -/
  next : Nat
  /-- How many references were followed. -/
  followed : Nat
  deriving Repr, DecidableEq, Inhabited

/-- What is yielded, or an error if there is nothing. -/
def orMalformed {α : Type} : Option α → Except DocumentError α
  | some value => .ok value
  | none => .error .malformed

namespace Document

/-- The progress behind one more reference. There must not be too many of them. -/
def follow (document : Document) (progress : Place.Progress) :
    Except DocumentError Place.Progress :=
  if repetitionLimit * document.events.size < progress.followed + 1 then .error .repetitive
  else .ok ⟨progress.next + 1, progress.followed + 1⟩

mutual

/-- Reads a node, inside of a number of collections at most. -/
def node (document : Document) (depth : Nat) (progress : Place.Progress) :
    Nat → Except DocumentError (Value × Place.Progress)
  | 0 => .error .malformed
  | fuel + 1 => do
    let behind := { progress with next := progress.next + 1 }
    match document.events[progress.next]? with
    | some (.reference number) =>
      let behind ← document.follow progress
      let place ← orMalformed (document.places.lookup number)
      let (value, last) ← node document depth { behind with next := place } fuel
      return (value, { behind with followed := last.followed })
    | some (.scalar tag content plain) =>
      return (← orMalformed (ofTagged? tag content plain), behind)
    | some (.sequence tag) =>
      if depth = 0 then .error .malformed
      else
        let (items, last) ← items document (depth - 1) [] behind fuel
        return ((Value.sequence items).under tag, last)
    | some (.mapping tag) =>
      if depth = 0 then .error .malformed
      else
        let (entries, last) ← entries document (depth - 1) [] behind fuel
        return ((Value.mapping entries).under tag, last)
    | _ => .error .malformed
termination_by structural fuel => fuel

/-- Reads the items of a sequence, and its end. -/
def items (document : Document) (depth : Nat) (items : List Value) (progress : Place.Progress) :
    Nat → Except DocumentError (List Value × Place.Progress)
  | 0 => .error .malformed
  | fuel + 1 => do
    if document.events[progress.next]? = some .sequenceEnd then
      return (items, { progress with next := progress.next + 1 })
    else
      let (item, behind) ← node document depth progress fuel
      Document.items document depth (items ++ [item]) behind fuel
termination_by structural fuel => fuel

/-- Reads the entries of a mapping, and its end. A key must be new. -/
def entries (document : Document) (depth : Nat) (entries : List (Value × Value))
    (progress : Place.Progress) :
    Nat → Except DocumentError (List (Value × Value) × Place.Progress)
  | 0 => .error .malformed
  | fuel + 1 => do
    if document.events[progress.next]? = some .mappingEnd then
      return (entries, { progress with next := progress.next + 1 })
    else
      let (key, middle) ← node document depth progress fuel
      if (Value.find? key entries).isSome then .error .malformed
      else
        let (value, behind) ← node document depth middle fuel
        Document.entries document depth (entries ++ [(key, value)]) behind fuel
termination_by structural fuel => fuel

end

/-- The value of a document. A collection takes a call for each of its parts, and a reference takes
one more, so the fuel is never used up. -/
def value (document : Document) : Except DocumentError Value := do
  let fuel := (depthLimit + 1) * (2 * document.events.size + 4)
  let (value, _) ← document.node depthLimit ⟨0, 0⟩ fuel
  if !document.complete then .error .malformed
  else if document.followed then .error .several
  else return value

end Document

/-- The value in a text that holds one document at most. -/
def Value.parse (text : Text) : Except DocumentError Value :=
  (Document.read text).value

end Dialogue.Yaml
