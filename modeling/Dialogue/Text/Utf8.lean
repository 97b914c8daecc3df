import Dialogue.Text.Basic

/-!
# Texts as bytes

A text is stored and sent in UTF-8. `encode` writes it; `decode?` reads it back and refuses bytes
that are no UTF-8; `decodeLossy` reads any bytes and puts one replacement character for every
longest run of bytes that begins a character without completing it.
-/

set_option autoImplicit false
set_option relaxedAutoImplicit false

namespace Dialogue.Text.Utf8

/-! ### Writing -/

/-- The bytes of a character. -/
def encodeChar (c : Char) : List UInt8 :=
  let n := c.toNat
  if n < 0x80 then [n.toUInt8]
  else if n < 0x800 then [(0xC0 + n / 0x40).toUInt8, (0x80 + n % 0x40).toUInt8]
  else if n < 0x10000 then
    [(0xE0 + n / 0x1000).toUInt8, (0x80 + n / 0x40 % 0x40).toUInt8, (0x80 + n % 0x40).toUInt8]
  else
    [(0xF0 + n / 0x40000).toUInt8, (0x80 + n / 0x1000 % 0x40).toUInt8,
      (0x80 + n / 0x40 % 0x40).toUInt8, (0x80 + n % 0x40).toUInt8]

/-- The bytes of a text. -/
def encode (text : Text) : List UInt8 :=
  text.flatMap encodeChar

/-- How many bytes a text takes up. -/
def size (text : Text) : Nat :=
  text.foldl (fun bytes c ↦ bytes + (encodeChar c).length) 0

/-! ### Reading -/

/-- What the bytes from a first byte on begin with. -/
inductive Start where
  /-- A character that takes up `following` bytes behind the first one. -/
  | char (c : Char) (following : Nat)
  /-- No character: the first byte and `following` bytes more are of no use. -/
  | broken (following : Nat)
  deriving Repr, DecidableEq

/-- Whether a byte lies between two bounds. -/
def isWithin (low high b : UInt8) : Bool :=
  low ≤ b && b ≤ high

/-- Whether a byte may stand inside a character. -/
def isInner (b : UInt8) : Bool :=
  isWithin 0x80 0xBF b

/-- The six bits that an inner byte carries. -/
def payload (b : UInt8) : Nat :=
  b.toNat % 0x40

/-- What `first` and the bytes behind it begin with. The bounds on the second byte leave out
overlong writings, surrogates and code points past the last one. -/
def start (first : UInt8) (rest : List UInt8) : Start :=
  if first < 0x80 then .char (Char.ofNat first.toNat) 0
  else if 0xC2 ≤ first ∧ first ≤ 0xDF then
    match rest with
    | second :: _ =>
      if isInner second then .char (Char.ofNat (first.toNat % 0x20 * 0x40 + payload second)) 1
      else .broken 0
    | [] => .broken 0
  else if 0xE0 ≤ first ∧ first ≤ 0xEF then
    let low := if first = 0xE0 then 0xA0 else 0x80
    let high := if first = 0xED then 0x9F else 0xBF
    match rest with
    | second :: third :: _ =>
      if !isWithin low high second then .broken 0
      else if !isInner third then .broken 1
      else
        .char (Char.ofNat
          (first.toNat % 0x10 * 0x1000 + payload second * 0x40 + payload third)) 2
    | [second] => .broken (if isWithin low high second then 1 else 0)
    | [] => .broken 0
  else if 0xF0 ≤ first ∧ first ≤ 0xF4 then
    let low := if first = 0xF0 then 0x90 else 0x80
    let high := if first = 0xF4 then 0x8F else 0xBF
    match rest with
    | second :: third :: fourth :: _ =>
      if !isWithin low high second then .broken 0
      else if !isInner third then .broken 1
      else if !isInner fourth then .broken 2
      else
        .char (Char.ofNat (first.toNat % 0x08 * 0x40000 + payload second * 0x1000
          + payload third * 0x40 + payload fourth)) 3
    | [second, third] =>
      .broken (if !isWithin low high second then 0 else if !isInner third then 1 else 2)
    | [second] => .broken (if isWithin low high second then 1 else 0)
    | [] => .broken 0
  else .broken 0

/-- The text that some bytes write, or none if they are no UTF-8. -/
def decode? : List UInt8 → Option Text
  | [] => some []
  | first :: rest =>
    match start first rest with
    | .char c following => (decode? (rest.drop following)).map (c :: ·)
    | .broken _ => none
termination_by bytes => bytes.length
decreasing_by simp only [List.length_drop, List.length_cons]; omega

/-- The text that some bytes write, with a replacement character for what is no UTF-8. -/
def decodeLossy : List UInt8 → Text
  | [] => []
  | first :: rest =>
    match start first rest with
    | .char c following => c :: decodeLossy (rest.drop following)
    | .broken following => Char.ofNat 0xFFFD :: decodeLossy (rest.drop following)
termination_by bytes => bytes.length
decreasing_by all_goals simp only [List.length_drop, List.length_cons]; omega

end Dialogue.Text.Utf8
