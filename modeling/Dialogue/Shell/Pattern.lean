import Dialogue.Pattern.Glob

/-!
# Shell patterns

A pattern is a list of characters, some of which are quoted and stand for themselves. Of the others
a star stands for any text, a question mark for any character, brackets for one of several, and a
backslash takes the meaning from the character behind it. A pattern is read as the parts of a
pattern for names (`compile`), of which it uses all but the one for whole components.
-/

set_option autoImplicit false
set_option relaxedAutoImplicit false

namespace Dialogue.Shell

/-- A character, and whether it is quoted. -/
abbrev Mark := Char × Bool

/-- The text of some marks. -/
def markText (marks : List Mark) : Text :=
  marks.map Prod.fst

/-- A text as marks, all quoted or none. -/
def marksOf (quoted : Bool) (text : Text) : List Mark :=
  text.map fun c ↦ (c, quoted)

/-! ### Sets of characters -/

/-- The range between two characters. -/
def charRange (low high : Char) : Pattern.CharRange := ⟨low, high⟩

/-- The characters that a name for a class stands for. -/
def classRanges? (name : String) : Option (List Pattern.CharRange) :=
  let char (code : Nat) : Char := Char.ofNat code
  match name with
  | "lower" => some [charRange 'a' 'z']
  | "upper" => some [charRange 'A' 'Z']
  | "alpha" => some [charRange 'A' 'Z', charRange 'a' 'z']
  | "digit" => some [charRange '0' '9']
  | "alnum" => some [charRange '0' '9', charRange 'A' 'Z', charRange 'a' 'z']
  | "xdigit" => some [charRange '0' '9', charRange 'A' 'F', charRange 'a' 'f']
  | "space" => some [charRange '\t' '\r', charRange ' ' ' ']
  | "blank" => some [charRange '\t' '\t', charRange ' ' ' ']
  | "punct" => some [charRange '!' '/', charRange ':' '@', charRange '[' '\x60',
      charRange '\x7b' '~']
  | "cntrl" => some [charRange (char 0) (char 31), charRange (char 127) (char 127)]
  | "print" => some [charRange ' ' '~']
  | "graph" => some [charRange '!' '~']
  | _ => none

/-- The class that is named behind an opening bracket within brackets, and what follows it. -/
def classAt? (marks : List Mark) : Option (List Pattern.CharRange × List Mark) :=
  match marks with
  | (':', false) :: rest =>
    let name := rest.takeWhile fun mark ↦ mark.1.isAlpha && !mark.2
    match rest.drop name.length with
    | (':', false) :: (']', false) :: behind =>
      (classRanges? (String.ofList (markText name))).map fun ranges ↦ (ranges, behind)
    | _ => none
  | _ => none

/-- The character at the start of some marks, which may stand behind a backslash, and the rest. -/
def unescaped (mark : Mark) (rest : List Mark) : Char × List Mark :=
  match mark, rest with
  | ('\\', false), (c, _) :: behind => (c, behind)
  | (c, _), _ => (c, rest)

/-- The set between brackets from behind the opening one, and what follows the closing one; none if
there is no closing one. A closing one that comes first stands for itself. The fuel is the number of
marks and one more. -/
def setBehind? (first : Bool) (marks : List Mark) :
    Nat → Option (List Pattern.CharRange × List Mark)
  | 0 => none
  | fuel + 1 =>
    match marks with
    | [] => none
    | mark :: rest =>
      if mark == (']', false) && !first then some ([], rest)
      else
        match if mark == ('[', false) then classAt? rest else none with
        | some (ranges, behind) =>
          (setBehind? false behind fuel).map fun (more, last) ↦ (ranges ++ more, last)
        | none =>
          let (low, rest) := unescaped mark rest
          let (high, rest) := match rest with
            | ('-', false) :: (']', false) :: _ => (low, rest)
            | ('-', false) :: mark :: behind => unescaped mark behind
            | _ => (low, rest)
          (setBehind? false rest fuel).map fun (more, last) ↦ (charRange low high :: more, last)

/-! ### Patterns -/

/-- The parts of a pattern. The fuel is the number of its marks. -/
def compileUpTo (marks : List Mark) : Nat → List Pattern.Part
  | 0 => []
  | fuel + 1 =>
    match marks with
    | [] => []
    | ('*', false) :: rest => .anyRun :: compileUpTo rest fuel
    | ('?', false) :: rest => .anyChar :: compileUpTo rest fuel
    | ('[', false) :: rest =>
      let (negated, inner) := match rest with
        | ('!', false) :: inner => (true, inner)
        | _ => (false, rest)
      match setBehind? true inner (inner.length + 1) with
      | some (set, behind) =>
        (if negated then .noneOf set else .oneOf set) :: compileUpTo behind fuel
      | none => .char '[' :: compileUpTo rest fuel
    | mark :: rest =>
      let (c, rest) := unescaped mark rest
      .char c :: compileUpTo rest fuel

/-- The parts of a pattern. -/
def compile (marks : List Mark) : List Pattern.Part :=
  compileUpTo marks marks.length

/-- Whether a text matches a pattern. -/
def matchesPattern (marks : List Mark) (text : Text) : Bool :=
  Pattern.matchesParts (compile marks) text

/-! ### Cutting -/

/-- The ways to cut a text in two, the shortest beginning first. -/
def cuts (text : Text) : List (Text × Text) :=
  (List.range (text.length + 1)).map fun n ↦ (text.take n, text.drop n)

/-- A text without the shortest or the longest beginning that matches a pattern. -/
def withoutStart (longest : Bool) (marks : List Mark) (text : Text) : Text :=
  let parts := compile marks
  let order := if longest then (cuts text).reverse else cuts text
  match order.find? fun (start, _) ↦ Pattern.matchesParts parts start with
  | some (_, rest) => rest
  | none => text

/-- A text without the shortest or the longest ending that matches a pattern. -/
def withoutEnd (longest : Bool) (marks : List Mark) (text : Text) : Text :=
  let parts := compile marks
  let order := if longest then cuts text else (cuts text).reverse
  match order.find? fun (_, ending) ↦ Pattern.matchesParts parts ending with
  | some (rest, _) => rest
  | none => text

end Dialogue.Shell
