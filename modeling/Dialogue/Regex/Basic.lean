import Dialogue.Regex.Class
import Dialogue.Text.Bytes

/-!
# Regular expressions

A regular expression matches parts of a text. `ends` lists the places where a match from some place
may end, and `search` finds the first place from which there is a match, and the longest match from
there. Groups remember what they matched, and may be referred to. Of several ways to the same end,
the one counts whose first parts are longest.
-/

set_option autoImplicit false
set_option relaxedAutoImplicit false

namespace Dialogue

/-- A condition on a place in a text. -/
inductive Anchor where
  | start
  | finish
  | wordStart
  | wordEnd
  | wordEdge
  | noWordEdge
  | noWordBefore
  | noWordBehind
  /-- The very start of the text, whatever a line is. -/
  | textStart
  | textEnd
  deriving Repr, DecidableEq, Inhabited

/-- A regular expression. -/
inductive Regex where
  | empty
  | char (c : Char)
  | any
  /-- A character that is in one of some ranges or classes, or in none of them. -/
  | set (negated : Bool) (ranges : List (Char × Char)) (classes : List CharClass)
  | anchor (condition : Anchor)
  | group (number : Nat) (inner : Regex)
  | back (number : Nat)
  | seq (first second : Regex)
  | alt (first second : Regex)
  | repeated (inner : Regex) (least : Nat) (most : Option Nat)
  deriving Repr, DecidableEq, Inhabited

namespace Regex

/-! ### Places -/

/-- A place in a text, with what the groups have matched on the way there. -/
structure Spot where
  index : Nat
  before : Option Char
  rest : Text
  groups : List (Nat × Text)
  deriving Repr, DecidableEq, Inhabited

/-- How characters are compared, and what counts as a line. -/
structure Manner where
  ignoresCase : Bool
  /-- Whether lines begin and end at line breaks within the text. -/
  inLines : Bool
  /-- Whether what groups have matched tells places apart. -/
  countsGroups : Bool
  deriving Repr, DecidableEq, Inhabited

/-- Whether a place satisfies a condition. -/
def Spot.satisfies (manner : Manner) (spot : Spot) (condition : Anchor) : Bool :=
  let before := spot.before.any CharClass.word.contains
  let behind := spot.rest.head?.any CharClass.word.contains
  match condition with
  | .start => spot.index = 0 || (manner.inLines && spot.before == some '\n')
  | .finish => spot.rest.isEmpty || (manner.inLines && spot.rest.head? == some '\n')
  | .wordStart => !before && behind
  | .wordEnd => before && !behind
  | .wordEdge => before != behind
  | .noWordEdge => before == behind
  | .noWordBefore => !before
  | .noWordBehind => !behind
  | .textStart => spot.index = 0
  | .textEnd => spot.rest.isEmpty

/-- Whether two characters are the same. -/
def Manner.same (manner : Manner) (a b : Char) : Bool :=
  a == b || (manner.ignoresCase && Text.smallLetter a == Text.smallLetter b)

/-- Whether a character is in one of some ranges or classes. -/
def Manner.isIn (manner : Manner) (ranges : List (Char × Char)) (classes : List CharClass)
    (c : Char) : Bool :=
  let within (c : Char) : Bool :=
    (ranges.any fun (low, high) ↦ low ≤ c && c ≤ high) || classes.any fun one ↦ one.contains c
  within c || (manner.ignoresCase && (within (Text.smallLetter c) || within (Text.largeLetter c)))

/-- The test of an expression that matches single characters. A stray byte is no character. -/
def single? (manner : Manner) : Regex → Option (Char → Bool)
  | .char c => some (manner.same c)
  | .any => some fun c ↦ !Text.isStray c
  | .set negated ranges classes =>
    some fun c ↦ manner.isIn ranges classes c != negated && !Text.isStray c
  | _ => none

/-- The place behind the next character. -/
def Spot.advance (spot : Spot) : Spot :=
  match spot.rest with
  | [] => spot
  | c :: rest => ⟨spot.index + 1, some c, rest, spot.groups⟩

/-- The place some characters further on. -/
def Spot.skip (spot : Spot) (count : Nat) : Spot :=
  if count = 0 then spot
  else
    ⟨spot.index + count, (spot.rest.drop (count - 1)).head?, spot.rest.drop count, spot.groups⟩

/-- The text between a place and a later one. -/
def Spot.textTo (spot last : Spot) : Text :=
  spot.rest.take (last.index - spot.index)

/-- The place with what a group has matched. -/
def Spot.withGroup (spot : Spot) (number : Nat) (text : Text) : Spot :=
  { spot with groups := (number, text) :: spot.groups.filter fun (other, _) ↦ other ≠ number }

/-! ### Matching -/

/-- Whether two places count as one. -/
def Manner.sameSpot (manner : Manner) (a b : Spot) : Bool :=
  a.index = b.index && (!manner.countsGroups || a.groups == b.groups)

/-- The places without those that count as one with an earlier one. -/
def Manner.distinct (manner : Manner) (spots : List Spot) : List Spot :=
  (spots.foldl (fun kept spot ↦
    if kept.any (manner.sameSpot spot) then kept else spot :: kept) ([] : List Spot)).reverse

/-- The places that are reached by repeating a step, behind those reached already. The fuel bounds
the number of steps. -/
def repeatedEnds (manner : Manner) (step : Spot → List Spot) (least : Nat) (most : Option Nat)
    (reached level : List Spot) : Nat → List Spot
  | 0 => reached
  | fuel + 1 =>
    if most == some 0 then reached
    else
      let next := manner.distinct (level.flatMap step)
      let next := if 1 < least then next
        else next.filter fun spot ↦ !reached.any (manner.sameSpot spot)
      if next.isEmpty then reached
      else
        let reached := if 1 < least then reached else reached ++ next
        repeatedEnds manner step (least - 1) (most.map (· - 1)) reached next fuel

/-- The ends of a run of characters that all satisfy a test. -/
def runEnds (test : Char → Bool) (least : Nat) (most : Option Nat) (spot : Spot) : List Spot :=
  let window := match most with
    | some most => spot.rest.take most
    | none => spot.rest
  let length := (window.takeWhile test).length
  if length < least then []
  else ((List.range (length + 1 - least)).map fun n ↦ spot.skip (length - n))

/-- The places in the order in which they count: those that are further on first. -/
def furthestFirst (spots : List Spot) : List Spot :=
  if spots.length < 2 then spots else spots.mergeSort fun a b ↦ b.index ≤ a.index

/-- The place behind the next character, if that satisfies a test. -/
def step (test : Char → Bool) (spot : Spot) : List Spot :=
  if spot.rest.head?.any test then [spot.advance] else []

/-- The places where a match may end. -/
def ends (manner : Manner) : Regex → Spot → List Spot
  | .empty, spot => [spot]
  | .char c, spot => step (manner.same c) spot
  | .any, spot => step (fun c ↦ !Text.isStray c) spot
  | .set negated ranges classes, spot =>
    step (fun c ↦ manner.isIn ranges classes c != negated && !Text.isStray c) spot
  | .anchor condition, spot => if spot.satisfies manner condition then [spot] else []
  | .group number inner, spot =>
    (ends manner inner spot).map fun last ↦ last.withGroup number (spot.textTo last)
  | .back number, spot =>
    match spot.groups.lookup number with
    | none => []
    | some text =>
      let found := spot.rest.take text.length
      if found.length = text.length && (found.zip text).all fun (a, b) ↦ manner.same a b then
        [spot.skip text.length]
      else []
  | .seq first second, spot =>
    manner.distinct ((furthestFirst (ends manner first spot)).flatMap (ends manner second))
  | .alt first second, spot => manner.distinct (ends manner first spot ++ ends manner second spot)
  | .repeated inner least most, spot =>
    match inner.single? manner with
    | some test => runEnds test least most spot
    | none =>
      repeatedEnds manner (fun spot ↦ furthestFirst (ends manner inner spot)) least most
        (if least = 0 then [spot] else []) [spot] (spot.rest.length + least + 1)

/-- Whether an expression refers to a group. -/
def refers : Regex → Bool
  | .back _ => true
  | .group _ inner | .repeated inner _ _ => refers inner
  | .seq first second | .alt first second => refers first || refers second
  | _ => false

/-! ### Searching -/

/-- An expression with the way in which it is matched. -/
structure Pattern where
  regex : Regex
  ignoresCase : Bool
  inLines : Bool
  deriving Repr, DecidableEq, Inhabited

/-- A match in a text. -/
structure Match where
  start : Spot
  stop : Spot
  deriving Repr, DecidableEq, Inhabited

/-- The text of a match. -/
def Match.text (found : Match) : Text := found.start.textTo found.stop

/-- What a group has matched. -/
def Match.group (found : Match) (number : Nat) : Text :=
  if number = 0 then found.text else (found.stop.groups.lookup number).getD []

namespace Pattern

/-- The way in which a pattern is matched. -/
def manner (pattern : Pattern) : Manner :=
  ⟨pattern.ignoresCase, pattern.inLines, pattern.regex.refers⟩

/-- The longest match from a place. -/
def longest? (pattern : Pattern) (spot : Spot) : Option Match :=
  let start := { spot with groups := [] }
  (furthestFirst (pattern.regex.ends pattern.manner start)).head?.map fun stop ↦ ⟨start, stop⟩

/-- The first match at a place or behind it. The fuel is the length of what follows, and one more.
-/
def searchUpTo (pattern : Pattern) (spot : Spot) : Nat → Option Match
  | 0 => none
  | fuel + 1 =>
    match pattern.longest? spot with
    | some found => some found
    | none => if spot.rest.isEmpty then none else pattern.searchUpTo spot.advance fuel

/-- The first match at a place or behind it. -/
def searchFrom (pattern : Pattern) (spot : Spot) : Option Match :=
  pattern.searchUpTo spot (spot.rest.length + 1)

/-- The place at the start of a text. -/
def startOf (text : Text) : Spot := ⟨0, none, text, []⟩

/-- The first match in a text. -/
def search (pattern : Pattern) (text : Text) : Option Match :=
  pattern.searchFrom (startOf text)

/-- The matches from a place on, one behind the other. An empty match does not follow another match
at once. The fuel is the length of what follows, and one more. -/
def matchesUpTo (pattern : Pattern) (spot : Spot) (afterMatch : Bool) : Nat → List Match
  | 0 => []
  | fuel + 1 =>
    match pattern.searchFrom spot with
    | none => []
    | some found =>
      let isEmpty := found.start.index = found.stop.index
      if isEmpty && afterMatch && found.start.index = spot.index then
        if spot.rest.isEmpty then [] else pattern.matchesUpTo spot.advance false fuel
      else if isEmpty then
        found :: if found.stop.rest.isEmpty then []
          else pattern.matchesUpTo found.stop.advance false fuel
      else found :: pattern.matchesUpTo found.stop true fuel

/-- All matches in a text, one behind the other. -/
def matchesIn (pattern : Pattern) (text : Text) : List Match :=
  pattern.matchesUpTo (startOf text) false (2 * text.length + 2)

end Pattern

end Regex

end Dialogue
