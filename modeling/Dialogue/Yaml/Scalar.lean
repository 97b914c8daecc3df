import Dialogue.Text.Fraction
import Dialogue.Yaml.Value

/-!
# Plain scalars

A scalar that is written without quotes stands for nothing, a truth value or a number if it looks
like one, and for its own text otherwise. A number with a leading zero is a text, and so is one
that is too large for a fraction; an integer that is too large for a word of sixty-four bits is no
value at all.
-/

set_option autoImplicit false
set_option relaxedAutoImplicit false

namespace Dialogue.Yaml

/-- Whether a scalar stands for nothing. -/
def isNull (scalar : Text) : Bool :=
  ["", "null", "Null", "NULL", "~"].any fun word ↦ scalar == word.toList

/-- The truth value that a scalar stands for. -/
def boolean? (scalar : Text) : Option Bool :=
  if ["true", "True", "TRUE"].any fun word ↦ scalar == word.toList then some true
  else if ["false", "False", "FALSE"].any fun word ↦ scalar == word.toList then some false
  else none

/-! ### Integers -/

/-- Whether a scalar is a run of digits that starts with a superfluous zero, behind a sign perhaps.
-/
def hasLeadingZero (scalar : Text) : Bool :=
  let digits := match scalar with
    | '-' :: rest | '+' :: rest => rest
    | _ => scalar
  match digits with
  | '0' :: second :: rest => (second :: rest).all Char.isDigit
  | _ => false

/-- The number that an unsigned scalar stands for: in base sixteen, eight or two behind a mark of
the base, in base ten otherwise. -/
def natural? : Text → Option Nat
  | '0' :: 'x' :: digits => Text.toNat? 16 digits
  | '0' :: 'o' :: digits => Text.toNat? 8 digits
  | '0' :: 'b' :: digits => Text.toNat? 2 digits
  | digits => Text.toNat? 10 digits

/-- The integer that a scalar stands for. -/
def integer? (scalar : Text) : Option Int :=
  if hasLeadingZero scalar then none
  else
    match scalar with
    | '-' :: rest => (natural? rest).map fun n ↦ -(n : Int)
    | '+' :: rest => (natural? rest).map Int.ofNat
    | _ => (natural? scalar).map Int.ofNat

/-- Whether an integer is too large to be looked at as one. -/
def isOversized (n : Int) : Bool :=
  n < -(Nat.pow 2 127 : Nat) || (Nat.pow 2 128 : Nat) ≤ n

/-- Whether an integer fits into a word. -/
def fitsWord (n : Int) : Bool :=
  -(Nat.pow 2 63 : Nat) ≤ n && n < (Nat.pow 2 64 : Nat)

/-! ### Fractions -/

/-- The fraction that a scalar stands for, as it is shown. -/
def fraction? (scalar : Text) : Option Text :=
  let unsigned := match scalar with
    | '+' :: rest => rest
    | _ => scalar
  if [".inf", ".Inf", ".INF"].any fun word ↦ unsigned == word.toList then some "inf".toList
  else if ["-.inf", "-.Inf", "-.INF"].any fun word ↦ scalar == word.toList then
    some "-inf".toList
  else if [".nan", ".NaN", ".NAN"].any fun word ↦ scalar == word.toList then some "NaN".toList
  else
    match scalar, unsigned with
    | '+' :: _, '+' :: _ | '+' :: _, '-' :: _ => none
    | _, _ => (Text.readScientific? unsigned).bind Text.showRounded?

/-! ### Resolution -/

/-- What a plain scalar stands for, none if it is an integer that fits into no word. -/
def resolve? (scalar : Text) : Option Value :=
  if isNull scalar then some .null
  else
    match boolean? scalar with
    | some value => some (.boolean value)
    | none =>
      match (integer? scalar).filter fun n ↦ !isOversized n with
      | some n => if fitsWord n then some (.integer n) else none
      | none =>
        match if hasLeadingZero scalar then none else fraction? scalar with
        | some shown => some (.fraction shown)
        | none => some (.text scalar)

/-- Whether a text would be read as something else if it were written without quotes. -/
def isAmbiguous (scalar : Text) : Bool :=
  hasLeadingZero scalar ||
    match resolve? scalar with
    | some (.text _) => false
    | _ => true

end Dialogue.Yaml
