import Dialogue.Text.Utf8

/-!
# Texts of bytes

Where text is handled byte by byte, a text may also be a list of bytes, each as the character with
its number. `narrow` is the text of the bytes that write a text, and `widen` reads it back. Where
nothing may be lost, `gather` reads it with a stray character for each byte that writes none, and
`scatter` gives the bytes back.
-/

set_option autoImplicit false
set_option relaxedAutoImplicit false

namespace Dialogue.Text

/-- Bytes as a text, with a character for each byte. -/
def ofBytes (bytes : List UInt8) : Text :=
  bytes.map fun b ↦ Char.ofNat b.toNat

/-- The bytes of a text with a character for each byte. -/
def toBytes (text : Text) : List UInt8 :=
  text.map fun c ↦ c.toNat.toUInt8

/-- The text with a character for each byte of a text. -/
def narrow (text : Text) : Text :=
  ofBytes (Utf8.encode text)

/-- The text whose bytes are the characters of a text. What is no UTF-8 is replaced. -/
def widen (text : Text) : Text :=
  Utf8.decodeLossy (toBytes text)

/-- The number in front of those of stray characters. -/
def strayBase : Nat := 0x10FF00

/-- Whether a character stands for a byte alone. -/
def isStray (c : Char) : Bool := strayBase ≤ c.toNat

/-- The text whose bytes are the characters of a text, behind what was found before, the last
character first. A byte that is no part of a character stands for itself as a stray character. The
fuel is the length of the text and one more. -/
def gatherUpTo (found text : Text) : Nat → Text
  | 0 => found.reverse
  | fuel + 1 =>
    match text with
    | [] => found.reverse
    | first :: rest =>
      if first.toNat < 0x80 then gatherUpTo (first :: found) rest fuel
      else
        let stray := Char.ofNat (strayBase + first.toNat % 256)
        match Utf8.start first.toNat.toUInt8 (toBytes (rest.take 3)) with
        | .char c following =>
          if isStray c then gatherUpTo (stray :: found) rest fuel
          else gatherUpTo (c :: found) (rest.drop following) fuel
        | .broken _ => gatherUpTo (stray :: found) rest fuel

/-- The text whose bytes are the characters of a text, none of which is lost. -/
def gather (text : Text) : Text :=
  gatherUpTo [] text (text.length + 1)

/-- The text with a character for each byte of a text that was gathered. -/
def scatter (text : Text) : Text :=
  text.flatMap fun c ↦
    if c.toNat < 0x80 then [c]
    else if isStray c then [Char.ofNat (c.toNat - strayBase)]
    else ofBytes (Utf8.encodeChar c)

end Dialogue.Text
