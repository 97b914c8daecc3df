import Dialogue.Text.Blank
import Dialogue.Text.LowerCase

/-!
# Classes of characters

The named classes of characters that a regular expression may refer to. In ASCII they are given by
ranges. Beyond it a character is a blank, a control character, a sign or a letter, and letters have
case where a mapping between small and capital letters says so.
-/

set_option autoImplicit false
set_option relaxedAutoImplicit false

namespace Dialogue

/-- A named class of characters. -/
inductive CharClass where
  | alpha
  | digit
  | alnum
  | upper
  | lower
  | space
  | blank
  | punct
  | print
  | graph
  | cntrl
  | xdigit
  /-- What words are made of. -/
  | word
  deriving Repr, DecidableEq, Inhabited

namespace CharClass

/-- The class of a name. -/
def ofName? (name : String) : Option CharClass :=
  match name with
  | "alpha" => some alpha
  | "digit" => some digit
  | "alnum" => some alnum
  | "upper" => some upper
  | "lower" => some lower
  | "space" => some space
  | "blank" => some blank
  | "punct" => some punct
  | "print" => some print
  | "graph" => some graph
  | "cntrl" => some cntrl
  | "xdigit" => some xdigit
  | _ => none

/-- Whether a character of ASCII belongs to a class. -/
def containsAscii (charClass : CharClass) (c : Char) : Bool :=
  let isSign := '!' ≤ c && c ≤ '~' && !c.isAlphanum
  match charClass with
  | alpha => c.isAlpha
  | digit => c.isDigit
  | alnum => c.isAlphanum
  | upper => c.isUpper
  | lower => c.isLower
  | space => c == ' ' || ('\t' ≤ c && c ≤ '\r')
  | blank => c == ' ' || c == '\t'
  | punct => isSign
  | print => ' ' ≤ c && c ≤ '~'
  | graph => '!' ≤ c && c ≤ '~'
  | cntrl => c < ' ' || c.toNat = 127
  | xdigit => c.isDigit || ('a' ≤ c && c ≤ 'f') || ('A' ≤ c && c ≤ 'F')
  | word => c.isAlphanum || c == '_'

/-- The characters beyond ASCII that are signs: marks, symbols and pictures. -/
def signRanges : List (Nat × Nat) :=
  [(0xA0, 0xA9), (0xAB, 0xB4), (0xB6, 0xB9), (0xBB, 0xBF), (0xD7, 0xD7), (0xF7, 0xF7),
   (0x2010, 0x2027), (0x2030, 0x205E), (0x20A0, 0x20C0), (0x2190, 0x2BFF), (0x3001, 0x3003),
   (0x3008, 0x3020), (0xE000, 0xF8FF), (0xFF01, 0xFF0F), (0xFF1A, 0xFF20), (0xFF3B, 0xFF40),
   (0xFF5B, 0xFF65), (0x1F000, 0x1FAFF)]

/-- The blanks that no line is broken at. -/
def fixedBlanks : List Nat := [0x85, 0xA0, 0x2007, 0x202F]

/-- Whether a character beyond ASCII belongs to a class. -/
def containsBeyond (charClass : CharClass) (c : Char) : Bool :=
  let isControl := c.toNat < 0xA0 || c.toNat = 0x2028 || c.toNat = 0x2029
  let isSpace := Text.isBlank c && !fixedBlanks.contains c.toNat
  let isSign := Text.inRanges signRanges c || fixedBlanks.contains c.toNat
  let isLetter := !isControl && !isSpace && !isSign
  let isUpper := Text.smallLetter c != c
  match charClass with
  | digit | xdigit => false
  | alpha | alnum | word => isLetter
  | upper => isUpper
  | lower => isLetter && !isUpper && Text.inRanges Text.casedRanges c
  | space => isSpace
  | blank => isSpace && !isControl
  | cntrl => isControl
  | punct => isSign && !isControl
  | print => !isControl
  | graph => !isControl && !isSpace

/-- Whether a character belongs to a class. -/
def contains (charClass : CharClass) (c : Char) : Bool :=
  if c.toNat < 0x80 then charClass.containsAscii c else charClass.containsBeyond c

end CharClass

end Dialogue
