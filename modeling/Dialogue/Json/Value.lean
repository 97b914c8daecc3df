import Dialogue.Text.Basic

/-!
# JSON

A value is a text, a number, a list, or an object whose members have an order. It is written with
one item or member a line, each level two blanks further in; a list or an object without any is
written on the spot (`Value.render`). In a text only quotes, backslashes and control characters are
escaped (`quote`).
-/

set_option autoImplicit false
set_option relaxedAutoImplicit false

namespace Dialogue.Json

/-- A value. -/
inductive Value where
  | text (text : Text)
  | number (n : Nat)
  | list (items : List Value)
  | object (members : List (Text × Value))
  deriving Repr, Inhabited

/-- How a character is written in a text. -/
def escape (c : Char) : Text :=
  match c with
  | '"' => ['\\', '"']
  | '\\' => ['\\', '\\']
  | '\n' => ['\\', 'n']
  | '\r' => ['\\', 'r']
  | '\t' => ['\\', 't']
  | '\x08' => ['\\', 'b']
  | '\x0c' => ['\\', 'f']
  | _ =>
    if c.toNat < 32 then
      "\\u00".toList ++ [Nat.digitChar (c.toNat / 16), Nat.digitChar (c.toNat % 16)]
    else [c]

/-- A text as it is written. -/
def quote (text : Text) : Text :=
  '"' :: text.flatMap escape ++ ['"']

/-- A line break and the blanks of a level. -/
def newLine (level : Nat) : Text :=
  '\n' :: List.replicate (2 * level) ' '

mutual

/-- A value as it is written at a level. -/
def Value.renderAt (level : Nat) : Value → Text
  | .text text => quote text
  | .number n => Text.ofNat n
  | .list [] => "[]".toList
  | .list (item :: items) =>
    '[' :: newLine (level + 1) ++ item.renderAt (level + 1) ++ renderItems (level + 1) items
      ++ newLine level ++ [']']
  | .object [] => "\x7b\x7d".toList
  | .object ((name, value) :: members) =>
    '\x7b' :: newLine (level + 1) ++ quote name ++ ": ".toList ++ value.renderAt (level + 1)
      ++ renderMembers (level + 1) members ++ newLine level ++ ['\x7d']

/-- Further items of a list. -/
def renderItems (level : Nat) : List Value → Text
  | [] => []
  | item :: items => ',' :: newLine level ++ item.renderAt level ++ renderItems level items

/-- Further members of an object. -/
def renderMembers (level : Nat) : List (Text × Value) → Text
  | [] => []
  | (name, value) :: members =>
    ',' :: newLine level ++ quote name ++ ": ".toList ++ value.renderAt level
      ++ renderMembers level members

end

/-- A value as it is written. -/
def Value.render (value : Value) : Text :=
  value.renderAt 0

end Dialogue.Json
