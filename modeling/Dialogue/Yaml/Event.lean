import Dialogue.Yaml.Token.Stream

/-!
# Events

The tokens of a document are read as events: a scalar, a reference, and the start and the end of a
collection. What has been begun stands on a stack of frames, and each step takes the innermost one:
it yields an event at most, and leaves frames for what is due next. What was read up to a mistake is
kept, since the value that it says may be wrong in a way of its own.

A name that is given to a node has a number, which is how many different names there were before it.
A reference keeps the number of its name. So a name that is given once more may take over the number
of another one, and what a number stands for is settled at the end of the document only.
-/

set_option autoImplicit false
set_option relaxedAutoImplicit false

namespace Dialogue.Yaml

/-- A part of a document, as it is read. -/
inductive Event where
  | scalar (tag : Option Text) (content : Text) (plain : Bool)
  /-- The node whose name has a number. -/
  | reference (number : Nat)
  | sequence (tag : Option Text)
  | sequenceEnd
  | mapping (tag : Option Text)
  | mappingEnd
  deriving Repr, DecidableEq, Inhabited

/-- The tags that YAML itself defines. -/
def coreTag (name : String) : Text :=
  ("tag:yaml.org,2002:" ++ name).toList

/-- What the place of a node admits. -/
inductive Place where
  /-- Flow style only. -/
  | flow
  /-- Block style as well. -/
  | block
  /-- A block sequence as deep as the mapping around it as well. -/
  | entry
  deriving Repr, DecidableEq, Inhabited

/-- What is due next. -/
inductive Frame where
  | node (place : Place)
  /-- A node, or nothing before some tokens. -/
  | nodeUnless (stops : List Token) (place : Place)
  /-- The items of a block sequence, which are left out before some tokens, and its end, which has
  a token of its own or not. -/
  | items (stops : List Token) (ends : Bool)
  /-- The entries of a block mapping, and its end. -/
  | entries
  /-- The value of an entry, which is left out before some tokens. -/
  | entryValue (stops : List Token) (place : Place)
  /-- The items of a sequence in flow style, and its end. -/
  | flowItems (first : Bool)
  /-- The key of an item that is a mapping with one entry. -/
  | pairKey
  /-- The end of such an item. -/
  | pairEnd
  /-- The entries of a mapping in flow style, and its end. -/
  | flowEntries (first : Bool)
  /-- The value of an entry that has none. -/
  | noValue
  deriving Repr, DecidableEq, Inhabited

/-! ### The state of reading -/

/-- What is known while events are read. -/
structure Events where
  tokens : List Token
  /-- What is due, the innermost first. -/
  frames : List Frame
  /-- What the handles of tags stand for. -/
  handles : List (Text × Text)
  /-- The events so far, the last one first. -/
  read : List Event
  /-- The numbers of the names so far. -/
  numbers : List (Text × Nat)
  /-- The places of the events that numbers stand for, the last one first. -/
  places : List (Nat × Nat)
  deriving Repr, Inhabited

namespace Events

/-- The state behind the next token. -/
def next (events : Events) : Events :=
  { events with tokens := events.tokens.tail }

/-- Whether the next token is the given one. -/
def sees (events : Events) (token : Token) : Bool :=
  events.tokens.head? == some token

/-- Whether the next token is one of the given ones. -/
def seesAny (events : Events) (stops : List Token) : Bool :=
  events.tokens.head?.any stops.contains

/-- More frames on the stack, the innermost first. -/
def due (events : Events) (frames : List Frame) : Events :=
  { events with frames := frames ++ events.frames }

/-- One more event. -/
def emit (events : Events) (event : Event) : Events :=
  { events with read := event :: events.read }

/-- The event that nothing is written. -/
def emitNothing (events : Events) : Events :=
  events.emit (.scalar none [] true)

/-- Gives a name to the next event. -/
def giveName (events : Events) : Option Text → Events
  | none => events
  | some name =>
    let number := events.numbers.length
    { events with
      numbers :=
        if (events.numbers.lookup name).isNone then events.numbers ++ [(name, number)]
        else events.numbers.map fun (other, n) ↦ (other, if other = name then number else n)
      places := (number, events.read.length) :: events.places }

/-! ### Names and tags -/

/-- Takes a name that stands in front of a node, if there is one. -/
def takeName (events : Events) : Option Text × Events :=
  match events.tokens with
  | .anchor name :: _ => (some name, events.next)
  | _ => (none, events)

/-- Takes a tag that stands in front of a node, if there is one. Its handle must be known. -/
def takeTag? (events : Events) : Option (Option Text × Events) :=
  match events.tokens with
  | .tag [] suffix :: _ => some (some suffix, events.next)
  | .tag handle suffix :: _ =>
    (events.handles.lookup handle).map fun start ↦ (some (start ++ suffix), events.next)
  | _ => some (none, events)

/-- Takes a name and a tag, in either order. -/
def takeProperties? (events : Events) : Option (Option Text × Option Text × Events) := do
  match events.takeName with
  | (some name, behind) =>
    let (tag, behind) ← behind.takeTag?
    return (some name, tag, behind)
  | (none, _) =>
    let (tag, behind) ← events.takeTag?
    if tag.isSome then
      let (name, behind) := behind.takeName
      return (name, tag, behind)
    else return (none, none, behind)

/-! ### Steps -/

/-- Reads the start of a node, or all of a scalar or a reference. Behind a name or a tag nothing
need stand. -/
def readNode? (place : Place) (events : Events) : Option Events := do
  match events.tokens with
  | .reference name :: _ =>
    return events.next.emit (.reference (← events.numbers.lookup name))
  | _ =>
    let (name, tag, behind) ← events.takeProperties?
    let named := behind.giveName name
    match place, behind.tokens with
    | _, [] | _, .unreadable :: _ => none
    | .entry, .blockEntry :: _ =>
      return (named.emit (.sequence tag)).due
        [.items [.blockEntry, .key, .value, .blockEnd] false]
    | _, .scalar content plain :: _ => return named.next.emit (.scalar tag content plain)
    | _, .flowSequence :: _ => return (named.next.emit (.sequence tag)).due [.flowItems true]
    | _, .flowMapping :: _ => return (named.next.emit (.mapping tag)).due [.flowEntries true]
    | .block, .blockSequence :: _ | .entry, .blockSequence :: _ =>
      return (named.next.emit (.sequence tag)).due [.items [.blockEntry, .blockEnd] true]
    | .block, .blockMapping :: _ | .entry, .blockMapping :: _ =>
      return (named.next.emit (.mapping tag)).due [.entries]
    | _, _ => if name.isSome || tag.isSome then return named.emit (.scalar tag [] true) else none

/-- The tokens before which an entry of a block mapping is left out. -/
def mappingStops : List Token := [.key, .value, .blockEnd]

/-- Passes over the token between two parts of a collection in flow style. -/
def nextPart? (first : Bool) (stop : Token) (events : Events) : Option Events :=
  if first || events.sees stop then some events
  else if events.sees .flowEntry then some events.next
  else none

/-- Does what is due, of which one frame was taken off the stack. -/
def step? (frame : Frame) (events : Events) : Option Events :=
  match frame with
  | .pairEnd => some (events.emit .mappingEnd)
  | .noValue => some events.emitNothing
  | .node place => events.readNode? place
  | .nodeUnless stops place =>
    if events.seesAny stops then some events.emitNothing else events.readNode? place
  | .items stops ends =>
    if events.sees .blockEntry then some (events.next.due [.nodeUnless stops .block, frame])
    else if !ends then some (events.emit .sequenceEnd)
    else if events.sees .blockEnd then some (events.next.emit .sequenceEnd)
    else none
  | .entries =>
    if events.sees .blockEnd then some (events.next.emit .mappingEnd)
    else if events.sees .key then
      some (events.next.due
        [.nodeUnless mappingStops .entry, .entryValue mappingStops .entry, frame])
    else none
  | .entryValue stops place =>
    if events.sees .value then some (events.next.due [.nodeUnless stops place])
    else some events.emitNothing
  | .flowItems first => do
    let start ← events.nextPart? first .flowSequenceEnd
    if start.sees .flowSequenceEnd then return start.next.emit .sequenceEnd
    else if start.sees .key then
      return (start.next.emit (.mapping none)).due
        [.pairKey, .entryValue [.flowEntry, .flowSequenceEnd] .flow, .pairEnd, .flowItems false]
    else return start.due [.node .flow, .flowItems false]
  | .pairKey =>
    if events.seesAny [.value, .flowEntry, .flowSequenceEnd] then some events.next.emitNothing
    else events.readNode? .flow
  | .flowEntries first => do
    let start ← events.nextPart? first .flowMappingEnd
    let stops := [Token.flowEntry, .flowMappingEnd]
    if start.sees .flowMappingEnd then return start.next.emit .mappingEnd
    else if start.sees .key then
      return start.next.due
        [.nodeUnless (.value :: stops) .flow, .entryValue stops .flow, .flowEntries false]
    else return start.due [.node .flow, .noValue, .flowEntries false]

/-- Whether nothing is known of what comes next, and a frame asks for it. -/
def isBlind (frame : Frame) (events : Events) : Bool :=
  frame ≠ .pairEnd && events.tokens.head?.all (· == .unreadable)

/-- Does all that is due, and says whether that was possible. -/
def readAll (events : Events) : Nat → Events × Bool
  | 0 => (events, false)
  | fuel + 1 =>
    match events.frames with
    | [] => (events, true)
    | frame :: outer =>
      let rest := { events with frames := outer }
      match if rest.isBlind frame then none else rest.step? frame with
      | some behind => readAll behind fuel
      | none => (events, false)

/-! ### Documents -/

/-- The handles of tags that need not be declared. -/
def standardHandles : List (Text × Text) :=
  [(['!'], ['!']), (['!', '!'], coreTag "")]

/-- Reads the directives before a document: at most one version, and no handle twice. -/
def directives? (versions : Nat) (handles : List (Text × Text)) :
    List Token → Option (List (Text × Text) × List Token)
  | .version major minor :: rest =>
    if versions = 0 && major = 1 && (minor = 1 || minor = 2) then directives? 1 handles rest
    else none
  | .tagHandle handle replacement :: rest =>
    if (handles.lookup handle).isSome then none
    else directives? versions (handles ++ [(handle, replacement)]) rest
  | rest => some (handles, rest)

/-- Whether a token starts or ends a document. -/
def isOutside : Token → Bool
  | .version _ _ | .tagHandle _ _ | .documentStart | .documentEnd | .streamEnd => true
  | _ => false

/-- The state at the start of a document, with the handles that it declares. -/
def start (handles : List (Text × Text)) (tokens : List Token) : Events where
  tokens := tokens
  frames := [.node .block]
  handles := handles ++ standardHandles.filter fun (h, _) ↦ (handles.lookup h).isNone
  read := []
  numbers := []
  places := []

/-- The state at the start of the first document. -/
def first? (tokens : List Token) : Option Events :=
  match tokens with
  | .version _ _ :: _ | .tagHandle _ _ :: _ | .documentStart :: _ => do
    let (handles, rest) ← directives? 0 [] tokens
    match rest with
    | .documentStart :: rest =>
      let events := start handles rest
      if rest.head?.any isOutside then return { events with frames := [.noValue] }
      else return events
    | _ => none
  | _ => some (start [] tokens)

end Events

/-- A document as its events. -/
structure Document where
  events : Array Event
  /-- The places of the events that numbers stand for. -/
  places : List (Nat × Nat)
  /-- Whether the document could be read up to its end. -/
  complete : Bool
  /-- Whether another document follows. -/
  followed : Bool
  deriving Repr, Inhabited

/-- Reads the first document of a text. The token behind it must be known. -/
def Document.read (text : Text) : Document :=
  let all := tokens text
  if all = [.streamEnd] then ⟨#[.scalar none [] true], [], true, false⟩
  else
    match Events.first? all with
    | none => ⟨#[], [], false, false⟩
    | some events =>
      let (events, complete) := events.readAll (8 * all.length + 8)
      { events := events.read.reverse.toArray
        places := events.places
        complete := complete && !events.tokens.head?.all (· == .unreadable)
        followed := (events.tokens.dropWhile (· == .documentEnd)).head? != some .streamEnd }

end Dialogue.Yaml
